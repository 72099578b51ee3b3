import OrmMapping.Annotation.Folding
import OrmMapping.Proofs.Annotation.WrittenPairs
import OrmMapping.Proofs.Json.WrittenMaps
import OrmMapping.Proofs.Text.Casing

/-!
# Three notations of parameters

The same parameters may be written as a nested map, as a JSON text or as a text of pairs. Both texts
keep the names as they are. The keys of a nested map are annotation keys, whose case does not count:
the names come out in lower case, so that the map says the same exactly when no name has a capital.

* `isParameterName`, `PlainParameters`: parameters that every notation can write;
* `PlainParameters.IsWritten`, `PlainParameters.value`: the texts and the map that write them;
* `PlainParameters.exists_isWritten`: there are such texts;
* `parameters_of_isWritten`, `parameters_of_value`: what is read of each notation;
* `PlainParameters.lowered_eq_iff`: when both are the same.
-/

namespace OrmMapping

variable {c : Char} {key : String} {a : Annotations}

/-! ## Parameters -/

/-- A letter without accents. -/
def isPlainLetter (c : Char) : Bool :=
  c.isUpper || c.isLower

/-- A letter or `_`, and more of them, digits, points and hyphens after it. -/
def isParameterName (name : String) : Bool :=
  match name.toList with
  | [] => false
  | c :: rest => (isPlainLetter c || c == '_') &&
    rest.all fun d => isPlainLetter d || d.isDigit || d == '_' || d == '.' || d == '-'

/-- A text without quotes, and without space at its ends. -/
def isParameterValue (value : String) : Bool :=
  value.toList.all (fun c => c != '\'' && c != '"') && Text.trim value == value

/-- Parameters in order that every notation can write. -/
structure PlainParameters where
  pairs : List (String × String)
  nodup : (pairs.map (·.1)).Nodup
  names : ∀ pair ∈ pairs, isParameterName pair.1 = true
  values : ∀ pair ∈ pairs, isParameterValue pair.2 = true

namespace PlainParameters

variable {p : PlainParameters}

/-- The texts that write the parameters: as a map in JSON, or as pairs. -/
inductive IsWritten (p : PlainParameters) : String → Prop
  | json (w : Json.WrittenMap) (pairs : w.pairs = p.pairs) : p.IsWritten w.text
  | pairs (w : WrittenPairs) (pairs : w.pairs.map (·.pair) = p.pairs) : p.IsWritten w.text

/-- The parameters as a nested map. -/
def value (p : PlainParameters) : Value :=
  .map (p.pairs.map fun pair => (pair.1, .str pair.2))

/-- The parameters that are left when the names are brought to lower case: of names that coincide
the first one has its place, and the last one its value. -/
def lowered (p : PlainParameters) : List (String × String) :=
  Keyed.ofPairs (p.pairs.map fun pair => (Text.lower pair.1, pair.2))

end PlainParameters

/-! ## Names and values -/

/-- The characters of a parameter name are in ASCII, and names of pairs may have them. -/
theorem isAscii_of_mem_name {name : String} (h : isParameterName name = true)
    (hc : c ∈ name.toList) : c.toNat < 0x80 ∧ PairNotation.isNameChar c = true := by
  -- the first character and the others have different rules, and all are among these
  have hkind : isPlainLetter c = true ∨ c.isDigit = true ∨ c = '_' ∨ c = '.' ∨ c = '-' := by
    unfold isParameterName at h
    cases hname : name.toList with
    | nil =>
      rw [hname] at hc
      cases hc
    | cons first rest =>
      rw [hname] at h hc
      simp only [Bool.and_eq_true, Bool.or_eq_true, beq_iff_eq, List.all_eq_true] at h
      rcases List.mem_cons.mp hc with rfl | hc
      · exact h.1.elim Or.inl fun hline => Or.inr (Or.inr (Or.inl hline))
      · have hrest := h.2 c hc
        tauto
  rw [isPlainLetter, Bool.or_eq_true_iff] at hkind
  have hcode : c.toNat < 0x80 := by
    rw [Text.isUpper_iff, Text.isLower_iff, Text.isDigit_iff] at hkind
    rcases hkind with h | h | rfl | rfl | rfl
    · omega
    · omega
    all_goals decide
  refine ⟨hcode, ?_⟩
  simp only [PairNotation.isNameChar, Text.isWordChar, hcode, if_true]
  rcases hkind with h | h | rfl | rfl | rfl
  · rw [Text.isAlphanum_iff.mpr (Or.inl h)]
    rfl
  · rw [Text.isAlphanum_iff.mpr (Or.inr h)]
    rfl
  all_goals decide

namespace PlainParameters

/-- A parameter with a plain name and value can be written as a pair in single quotes. -/
theorem exists_writtenPair {pair : String × String} (hname : isParameterName pair.1 = true)
    (hvalue : isParameterValue pair.2 = true) :
    ∃ w : WrittenPair, w.quoting = .single ∧ w.pair = pair := by
  simp only [isParameterValue, Bool.and_eq_true, List.all_eq_true, bne_iff_ne, beq_iff_eq] at hvalue
  have hne : pair.1.toList ≠ [] := by
    intro hnil
    rw [isParameterName, hnil] at hname
    cases hname
  let w : WrittenPair :=
    { name := pair.1.toList
      value := pair.2.toList
      quoting := .single
      name_ne_nil := hne
      isNameChar_of_mem := fun c hc => (isAscii_of_mem_name hname hc).2
      separates := Or.inl rfl
      admits_of_mem := fun c hc => bne_iff_ne.mpr (hvalue.1 c hc).1 }
  have htrim : String.ofList (Text.trimChars pair.2.toList) = pair.2 := hvalue.2
  exact ⟨w, rfl, by simp only [w, WrittenPair.pair, htrim, String.ofList_toList]⟩

/-- There is a text of pairs in braces, with all values quoted, for any parameters. -/
theorem exists_pairs (p : PlainParameters) :
    ∃ w : WrittenPairs, w.braced = true ∧ (∀ pair ∈ w.pairs, pair.quoting = .single) ∧
      w.pairs.map (·.pair) = p.pairs := by
  -- written one by one, in order
  have hall : ∀ pairs : List (String × String), (∀ pair ∈ pairs, isParameterName pair.1 = true) →
      (∀ pair ∈ pairs, isParameterValue pair.2 = true) →
      ∃ ws : List WrittenPair, (∀ pair ∈ ws, pair.quoting = .single) ∧
        ws.map (·.pair) = pairs := by
    intro pairs hnames hvalues
    induction pairs with
    | nil => exact ⟨[], by simp, rfl⟩
    | cons pair rest ih =>
      obtain ⟨hname, hnames⟩ := List.forall_mem_cons.mp hnames
      obtain ⟨hvalue, hvalues⟩ := List.forall_mem_cons.mp hvalues
      obtain ⟨ws, hquoted, hws⟩ := ih hnames hvalues
      obtain ⟨w, hw, hpair⟩ := exists_writtenPair hname hvalue
      exact ⟨w :: ws, List.forall_mem_cons.mpr ⟨hw, hquoted⟩, by rw [List.map_cons, hws, hpair]⟩
  obtain ⟨ws, hquoted, hws⟩ := hall p.pairs p.names p.values
  exact ⟨{ pairs := ws, braced := true }, rfl, hquoted, hws⟩

/-- Both texts are there for any parameters. -/
theorem exists_isWritten (p : PlainParameters) :
    (∃ w : Json.WrittenMap, p.IsWritten w.text) ∧
      ∃ w : WrittenPairs, w.braced = true ∧ p.IsWritten w.text := by
  obtain ⟨map, hmap⟩ := Json.exists_writtenMap p.pairs
  obtain ⟨pairs, hbraced, -, hpairs⟩ := p.exists_pairs
  exact ⟨⟨map, .json map hmap⟩, pairs, hbraced, .pairs pairs hpairs⟩

end PlainParameters

/-! ## Capitals -/

namespace PlainParameters

variable {p : PlainParameters}

/-- A parameter name without capitals is in lower case. -/
theorem lower_of_no_capital {name : String} (hname : isParameterName name = true)
    (h : ∀ c ∈ name.toList, c.isUpper = false) : Text.lower name = name := by
  refine Text.lower_of_isLowered fun c hc =>
    Text.isLowered_of_lt (isAscii_of_mem_name hname hc).1 ?_
  intro hcapital
  have hupper := Text.isUpper_iff.mpr hcapital
  rw [h c hc] at hupper
  cases hupper

/-- A name in lower case has no capitals of ASCII. -/
theorem no_capital_of_lower {name : String} (h : Text.lower name = name) (hc : c ∈ name.toList) :
    c.isUpper = false := by
  have hlowered : Text.IsLowered c := Text.isLowered_of_mem_lower (h.symm ▸ hc)
  by_contra hupper
  have hcapital := Text.isUpper_iff.mp (eq_true_of_ne_false hupper)
  have hpartner := congrArg Char.toNat hlowered.partner
  have hascii : c.toNat < 0x80 := by omega
  have hlower : Text.lowerChar c = Char.ofNat (c.toNat + 0x20) := by
    simp [Text.lowerChar, hascii, hcapital]
  rw [hlower, Text.toNat_ofNat (Or.inl (by omega))] at hpartner
  omega

/-- In lower case the parameters are what they were exactly when no name has a capital. -/
theorem lowered_eq_iff (p : PlainParameters) :
    p.lowered = p.pairs ↔ ∀ pair ∈ p.pairs, ∀ c ∈ pair.1.toList, c.isUpper = false := by
  constructor
  · intro h pair hpair c hc
    refine no_capital_of_lower ?_ hc
    -- every name that is left is in lower case
    have hkey : pair.1 ∈ Keyed.keys p.lowered := by
      rw [h]
      exact List.mem_map_of_mem hpair
    rw [lowered, Keyed.keys_ofPairs, List.mem_eraseDups, List.map_map] at hkey
    obtain ⟨other, -, hother⟩ := List.mem_map.mp hkey
    rw [← hother]
    exact Text.lower_lower other.1
  · intro h
    have hsame : (p.pairs.map fun pair => (Text.lower pair.1, pair.2)) = p.pairs := by
      refine (List.map_congr_left fun pair hpair => ?_).trans (List.map_id _)
      rw [lower_of_no_capital (p.names pair hpair) (h pair hpair)]
      rfl
    rw [lowered, hsame, Keyed.ofPairs_of_nodup p.nodup]

end PlainParameters

/-! ## What is read -/

namespace Annotations

/-- Parameters with texts as values are listed as they are. -/
theorem parameterList_map_str (pairs : List (String × String)) :
    parameterList (pairs.map fun pair => (pair.1, .str pair.2)) = pairs := by
  rw [parameterList, List.map_map]
  exact List.map_id pairs

/-- If `text` writes the parameters `p`, in JSON or in pairs, then they are read as they are,
without a warning. -/
theorem parameters_of_isWritten {p : PlainParameters} {text : String} (hwritten : p.IsWritten text)
    (h : a.entries.get? key = some (.str text)) : a.parameters key = ⟨[], .ok p.pairs⟩ := by
  -- either notation: the map is read as JSON, pairs are what JSON refuses
  cases hwritten with
  | json w hpairs =>
    have hmap : w.entries.map (fun e => (e.pair.1, Value.str e.pair.2)) =
        p.pairs.map fun pair => (pair.1, .str pair.2) := by
      rw [← hpairs, Json.WrittenMap.pairs, List.map_map]
      rfl
    have hparams : parametersOfText? (Text.trim w.text) = some p.pairs := by
      rw [parametersOfText?, Json.ofJson?_trim_text, hmap, Keyed.ofPairs_map,
        Keyed.ofPairs_of_nodup p.nodup]
      exact congrArg some (parameterList_map_str p.pairs)
    exact parameters_of_parametersOfText? h (Json.isBlank_text w) hparams
  | pairs w hpairs => rw [parameters_eq w h, hpairs, Keyed.ofPairs_of_nodup p.nodup]

/-- A nested map of an annotation set gives the names in lower case, and merges those that
coincide. -/
theorem parameters_of_value {p : PlainParameters}
    (h : a.entries.get? key = some p.value.foldKeys) :
    a.parameters key = ⟨[], .ok p.lowered⟩ := by
  have hfold : Value.foldPairs (p.pairs.map fun pair => (pair.1, .str pair.2)) =
      (p.pairs.map fun pair => (Text.lower pair.1, pair.2)).map fun pair =>
        (pair.1, .str pair.2) := by
    rw [Value.foldPairs_eq_map, List.map_map, List.map_map]
    rfl
  have hvalue : a.value key = .map (p.lowered.map fun pair => (pair.1, .str pair.2)) := by
    rw [value, h, PlainParameters.value, Value.foldKeys, hfold, Keyed.ofPairs_map]
    rfl
  simp only [parameters, hvalue, parameterList_map_str, Report.pure_def]

end Annotations

end OrmMapping
