import Mathlib.Data.List.TakeWhile
import Mathlib.Data.Nat.Digits.Defs
import RiscvAssembler.Features
import RiscvAssembler.Proofs.Field

/-!
# Reading the environment

A variable that is set holds, between white space, a truth word in any letter case or a decimal
number. `Features.ofLookup` succeeds exactly when every variable that is set does so, and then each
flag is what its variable denotes, or its default. Otherwise the first variable that does not, in
the order in which they are read, is reported with its whole text.
-/

namespace RiscvAssembler

namespace Text

/-! ## White space -/

/-- White space around a text is not part of what is left of it. -/
theorem trim_append {left cs right : List Char} (hleft : ∀ c ∈ left, isBlank c)
    (hright : ∀ c ∈ right, isBlank c) : trim (left ++ cs ++ right) = trim cs := by
  have hreverse : ∀ c ∈ right.reverse, isBlank c := fun c hc => hright c (List.mem_reverse.1 hc)
  have hblank : right.dropWhile isBlank = [] := List.dropWhile_eq_nil_iff.2 hright
  rw [trim, trim, List.append_assoc, List.dropWhile_append_of_pos hleft, List.dropWhile_append]
  split_ifs with hempty
  · rw [hblank, List.isEmpty_iff.1 hempty]
  · rw [List.reverse_append, List.dropWhile_append_of_pos hreverse]

/-! ## Letter case -/

theorem toNat_toLower (c : Char) :
    c.toLower.toNat = if 65 ≤ c.toNat ∧ c.toNat ≤ 90 then c.toNat + 32 else c.toNat := by
  have hrange : c.val ≥ 'A'.val ∧ c.val ≤ 'Z'.val ↔ 65 ≤ c.toNat ∧ c.toNat ≤ 90 := by
    rw [ge_iff_le, UInt32.le_iff_toNat_le, UInt32.le_iff_toNat_le]
    rfl
  have hshift : ('a'.val - 'A'.val).toNat = 32 := by decide
  delta Char.toLower
  simp only [hrange]
  split_ifs with h
  · rw [← Char.toNat_val, UInt32.toNat_add, hshift, Char.toNat_val]
    omega
  · rfl

theorem toNat_toUpper (c : Char) :
    c.toUpper.toNat = if 97 ≤ c.toNat ∧ c.toNat ≤ 122 then c.toNat - 32 else c.toNat := by
  have hrange : 'a'.val ≤ c.val ∧ c.val ≤ 'z'.val ↔ 97 ≤ c.toNat ∧ c.toNat ≤ 122 := by
    rw [UInt32.le_iff_toNat_le, UInt32.le_iff_toNat_le]
    rfl
  have hshift : ('A'.val - 'a'.val).toNat = 2 ^ 32 - 32 := by decide
  delta Char.toUpper
  simp only [hrange]
  split_ifs with h
  · rw [← Char.toNat_val, UInt32.toNat_add, hshift, Char.toNat_val]
    omega
  · rfl

theorem toLower_eq_iff {c d : Char} (hd : d.toLower = d) :
    c.toLower = d ↔ c = d ∨ c = d.toUpper := by
  rw [← Char.toNat_inj, toNat_toLower] at hd ⊢
  rw [← Char.toNat_inj, ← Char.toNat_inj, toNat_toUpper]
  split_ifs at hd ⊢ <;> omega

/-- The text is the word, each letter in lower or upper case. -/
def Spells (word : String) (cs : List Char) : Prop :=
  List.Forall₂ (fun c d => c = d ∨ c = d.toUpper) cs word.toList

theorem spells_iff {word : String} (hword : ∀ d ∈ word.toList, d.toLower = d) {cs : List Char} :
    Spells word cs ↔ String.ofList (cs.map Char.toLower) = word := by
  have hcase : ∀ ds : List Char, (∀ d ∈ ds, d.toLower = d) →
      (List.Forall₂ (fun c d => c = d ∨ c = d.toUpper) cs ds ↔ cs.map Char.toLower = ds) := by
    induction cs with
    | nil =>
      intro ds _
      rw [List.forall₂_nil_left_iff, List.map_nil, eq_comm]
    | cons c cs ih =>
      rintro (_ | ⟨d, ds⟩) hds
      · simp
      · rw [List.forall_mem_cons] at hds
        rw [List.forall₂_cons, ih ds hds.2, ← toLower_eq_iff hds.1, List.map_cons, List.cons.injEq]
  rw [Spells, hcase _ hword, ← String.ofList_inj, String.ofList_toList]

/-! ## Numbers -/

/-- The text is the number in decimal digits, with zeros in front or not. -/
def IsDecimal (n : Nat) (cs : List Char) : Prop :=
  ∃ digits : List Nat, digits ≠ [] ∧ (∀ d ∈ digits, d < 10) ∧ cs = digits.map Nat.digitChar ∧
    n = Nat.ofDigits 10 digits.reverse

/-- The text is a decimal number, with a plus sign in front or not. -/
def IsUnsigned (n : Nat) (cs : List Char) : Prop :=
  IsDecimal n cs ∨ ∃ rest, cs = '+' :: rest ∧ IsDecimal n rest

theorem exists_digitChar_of_isDigit {c : Char} (h : c.isDigit) : ∃ d < 10, c = Nat.digitChar d := by
  have hrange : 48 ≤ c.toNat ∧ c.toNat ≤ 57 := by
    simpa [Char.isDigit, UInt32.le_iff_toNat_le] using h
  refine ⟨c.toNat - 48, by omega, ?_⟩
  rw [← Char.toNat_inj, Nat.toNat_digitChar_of_lt_ten (by omega)]
  omega

theorem exists_digits_of_digitsValue? {acc n : Nat} {cs : List Char}
    (h : digitsValue? acc cs = some n) :
    ∃ digits : List Nat, (∀ d ∈ digits, d < 10) ∧ cs = digits.map Nat.digitChar := by
  induction cs generalizing acc with
  | nil => exact ⟨[], List.forall_mem_nil _, rfl⟩
  | cons c cs ih =>
    rw [digitsValue?] at h
    split at h
    next hdigit =>
      obtain ⟨d, hd, rfl⟩ := exists_digitChar_of_isDigit hdigit
      obtain ⟨digits, hdigits, rfl⟩ := ih h
      exact ⟨d :: digits, List.forall_mem_cons.2 ⟨hd, hdigits⟩, rfl⟩
    next => cases h

theorem digitsValue?_map_digitChar {digits : List Nat} (hdigits : ∀ d ∈ digits, d < 10)
    (acc : Nat) : digitsValue? acc (digits.map Nat.digitChar) =
      some (Nat.ofDigits 10 digits.reverse + 10 ^ digits.length * acc) := by
  induction digits generalizing acc with
  | nil => simp [digitsValue?]
  | cons d digits ih =>
    obtain ⟨hd, hdigits⟩ := List.forall_mem_cons.1 hdigits
    have hdigit : (Nat.digitChar d).isDigit := by rw [Nat.isDigit_digitChar, decide_eq_true hd]
    have hvalue : (Nat.digitChar d).toNat - '0'.toNat = d := by
      rw [Nat.toNat_digitChar_of_lt_ten hd]
      exact Nat.add_sub_cancel_left 48 d
    rw [List.map_cons, digitsValue?, if_pos hdigit, hvalue, ih hdigits, List.reverse_cons,
      Nat.ofDigits_append, Nat.ofDigits_singleton, List.length_reverse, List.length_cons]
    congr 1
    ring

theorem digitsValue?_eq_some_iff {n : Nat} {cs : List Char} (hne : cs ≠ []) :
    digitsValue? 0 cs = some n ↔ IsDecimal n cs := by
  constructor
  · intro h
    obtain ⟨digits, hdigits, rfl⟩ := exists_digits_of_digitsValue? h
    rw [digitsValue?_map_digitChar hdigits, Option.some.injEq, Nat.mul_zero, Nat.add_zero] at h
    exact ⟨digits, fun hnil => hne (congrArg _ hnil), hdigits, rfl, h.symm⟩
  · rintro ⟨digits, -, hdigits, rfl, rfl⟩
    rw [digitsValue?_map_digitChar hdigits, Nat.mul_zero, Nat.add_zero]

theorem IsDecimal.isDigit {n : Nat} {cs : List Char} (h : IsDecimal n cs) :
    ∀ c ∈ cs, c.isDigit := by
  obtain ⟨digits, -, hdigits, rfl, -⟩ := h
  rw [List.forall_mem_map]
  intro d hd
  rw [Nat.isDigit_digitChar, decide_eq_true (hdigits d hd)]

/-- A number is read when it is written as one and is small enough. -/
theorem unsigned?_eq_some_iff {n : Nat} {cs : List Char} :
    unsigned? cs = some n ↔ IsUnsigned n cs ∧ n < 2 ^ 64 := by
  have hdecimal : ∀ ds : List Char,
      (if ds.isEmpty then none else (digitsValue? 0 ds).filter (· < 1 <<< 64)) = some n ↔
        IsDecimal n ds ∧ n < 2 ^ 64 := by
    rintro (_ | ⟨c, ds⟩)
    · refine iff_of_false nofun ?_
      rintro ⟨⟨digits, hne, -, hnil, -⟩, -⟩
      exact hne (List.map_eq_nil_iff.1 hnil.symm)
    · rw [List.isEmpty_cons, if_neg Bool.false_ne_true, Option.filter_eq_some_iff,
        digitsValue?_eq_some_iff (List.cons_ne_nil c ds), decide_eq_true_iff]
      rfl
  unfold unsigned?
  rw [hdecimal, IsUnsigned]
  refine and_congr_left' ?_
  split
  next rest =>
    refine ⟨fun h => .inr ⟨rest, rfl, h⟩, ?_⟩
    rintro (h | ⟨_, ⟨⟩, h⟩)
    · exact absurd (h.isDigit '+' List.mem_cons_self) (by decide)
    · exact h
  next hsign =>
    refine ⟨.inl, ?_⟩
    rintro (h | ⟨rest, rfl, -⟩)
    · exact h
    · exact absurd rfl (hsign rest)

end Text

namespace Features

/-! ## Values of variables -/

/-- The words for a truth value. -/
def truthWords : Bool → List String
  | true => ["1", "true", "on", "yes"]
  | false => ["0", "false", "off", "no"]

/-- The text is a word for the truth value in any letter case. -/
def IsTruth (cs : List Char) (b : Bool) : Prop :=
  ∃ word ∈ truthWords b, Text.Spells word cs

/-- The text is a size below 2⁶⁴. -/
def IsSize (cs : List Char) (size : Option Nat) : Prop :=
  ∃ n, size = some n ∧ Text.IsUnsigned n cs ∧ n < 2 ^ 64

theorem truth?_eq_some_iff (cs : List Char) (b : Bool) : truth? cs = some b ↔ IsTruth cs b := by
  have hlower : ∀ b, ∀ word ∈ truthWords b, ∀ d ∈ word.toList, d.toLower = d := by
    rintro (_ | _) <;> simp [truthWords]
  have hword : IsTruth cs b ↔ String.ofList (cs.map Char.toLower) ∈ truthWords b := by
    constructor
    · rintro ⟨word, hmem, hspells⟩
      rwa [(Text.spells_iff (hlower b word hmem)).1 hspells]
    · intro hmem
      exact ⟨_, hmem, (Text.spells_iff (hlower b _ hmem)).2 rfl⟩
  have hapart : ∀ word ∈ truthWords true, word ∉ truthWords false := by decide
  rw [hword, truth?]
  generalize String.ofList (cs.map Char.toLower) = word
  change (if word ∈ truthWords true then some true
    else if word ∈ truthWords false then some false else none) = some b ↔ _
  split_ifs with htrue hfalse <;> cases b
  · exact iff_of_false nofun (hapart word htrue)
  · exact iff_of_true rfl htrue
  · exact iff_of_true rfl hfalse
  · exact iff_of_false nofun htrue
  · exact iff_of_false nofun hfalse
  · exact iff_of_false nofun htrue

theorem size?_eq_some_iff (cs : List Char) (size : Option Nat) :
    (Text.unsigned? cs).map some = some size ↔ IsSize cs size := by
  rw [Option.map_eq_some_iff]
  constructor
  · rintro ⟨n, hn, rfl⟩
    exact ⟨n, rfl, Text.unsigned?_eq_some_iff.1 hn⟩
  · rintro ⟨n, rfl, hn⟩
    exact ⟨n, Text.unsigned?_eq_some_iff.2 hn, rfl⟩

/-- The value of a variable: what its text denotes without the white space at the ends, or the
default where it is unset. -/
def HasValue {α : Type} (text : Option String) (Denotes : List Char → α → Prop)
    (otherwise x : α) : Prop :=
  match text with
  | none => x = otherwise
  | some text => Denotes (Text.trim text.toList) x

section Variable

variable {α : Type} {Denotes : List Char → α → Prop} {parse : List Char → Option α}
  {lookup : String → Option String} {name : String} {otherwise : α}

theorem readVariable_eq_ok_iff (hparse : ∀ cs x, parse cs = some x ↔ Denotes cs x) {x : α} :
    readVariable lookup name parse otherwise = .ok x ↔
      HasValue (lookup name) Denotes otherwise x := by
  rw [readVariable]
  cases lookup name with
  | none => exact ⟨fun h => (Except.ok.inj h).symm, fun h => congrArg _ (Eq.symm h)⟩
  | some text =>
    dsimp only [HasValue]
    rw [← hparse]
    cases parse (Text.trim text.toList) with
    | none => exact iff_of_false nofun nofun
    | some y => rw [Except.ok.injEq, Option.some.injEq]

/-- A variable is reported when it is set to a text that denotes nothing. -/
theorem readVariable_eq_error_iff (hparse : ∀ cs x, parse cs = some x ↔ Denotes cs x)
    {e : FeatureError} :
    readVariable lookup name parse otherwise = .error e ↔
      ∃ text, lookup name = some text ∧ (¬ ∃ x, Denotes (Text.trim text.toList) x) ∧
        e = .invalidValue name text := by
  rw [readVariable]
  cases lookup name with
  | none => exact iff_of_false nofun nofun
  | some text =>
    simp only [← hparse, Option.some.injEq, exists_eq_left']
    cases parse (Text.trim text.toList) with
    | none => simp [eq_comm]
    | some y => simp

theorem exists_hasValue_iff {text? : Option String} :
    (∃ x, HasValue text? Denotes otherwise x) ↔
      ∀ text, text? = some text → ∃ x, Denotes (Text.trim text.toList) x := by
  cases text? with
  | none => exact iff_of_true ⟨otherwise, rfl⟩ nofun
  | some text => simp [HasValue]

end Variable

/-! ## The flags -/

/-- The variables that may be set. -/
inductive Variable
  | rvc | rvv | maxVectorSize
  deriving DecidableEq

namespace Variable

def name : Variable → String
  | rvc => rvcVariable
  | rvv => rvvVariable
  | maxVectorSize => maxVectorSizeVariable

/-- The text, without white space at its ends, is one that the variable may have. -/
def Accepts : Variable → List Char → Prop
  | rvc, cs | rvv, cs => ∃ b, IsTruth cs b
  | maxVectorSize, cs => ∃ size, IsSize cs size

/-- The variables that are read before. -/
def before : Variable → List Variable
  | rvc => []
  | rvv => [rvc]
  | maxVectorSize => [rvc, rvv]

/-- The variable is unset or has a text that it may have. -/
def Valid (lookup : String → Option String) (v : Variable) : Prop :=
  ∀ text, lookup v.name = some text → v.Accepts (Text.trim text.toList)

/-- The variable is the first that is not valid. -/
def FirstInvalid (lookup : String → Option String) (v : Variable) : Prop :=
  (∀ u ∈ v.before, u.Valid lookup) ∧ ¬ v.Valid lookup

end Variable

/-- The flags have the values of the variables. -/
structure Denoted (lookup : String → Option String) (f : Features) : Prop where
  useRvc : HasValue (lookup rvcVariable) IsTruth default.useRvc f.useRvc
  useRvv : HasValue (lookup rvvVariable) IsTruth default.useRvv f.useRvv
  maxVectorSize :
    HasValue (lookup maxVectorSizeVariable) IsSize default.maxVectorSize f.maxVectorSize

/-- The same variables are set, and white space may stand around each text that stood there
without. -/
def Pads (padded lookup : String → Option String) : Prop :=
  ∀ v : Variable, Option.Rel (fun paddedText text => ∃ left right : List Char,
    (∀ c ∈ left ++ right, Text.isBlank c) ∧
      paddedText.toList = left ++ text.toList ++ right) (padded v.name) (lookup v.name)

/-- What is said of reading the environment. -/
structure ReadsExactly (lookup : String → Option String) : Prop where
  /-- The flags are read exactly when every variable is valid. -/
  exists_ok_iff : (∃ f, ofLookup lookup = .ok f) ↔ ∀ v : Variable, v.Valid lookup
  ok_iff : ∀ f, ofLookup lookup = .ok f ↔ Denoted lookup f
  /-- The first variable that is not valid is reported with its whole text. -/
  error_iff : ∀ e, ofLookup lookup = .error e ↔ ∃ (v : Variable) (text : String),
    v.FirstInvalid lookup ∧ lookup v.name = some text ∧ e = .invalidValue v.name text
  /-- White space around the texts does not change the flags. -/
  padded : ∀ padded f, Pads padded lookup → ofLookup lookup = .ok f → ofLookup padded = .ok f

section Lookup

variable {lookup : String → Option String}

theorem ofLookup_eq_ok_iff {f : Features} : ofLookup lookup = .ok f ↔ Denoted lookup f := by
  simp only [ofLookup, bind_eq_ok_iff, readVariable_eq_ok_iff truth?_eq_some_iff,
    readVariable_eq_ok_iff size?_eq_some_iff]
  constructor
  · rintro ⟨_, hrvc, _, hrvv, _, hsize, ⟨⟩⟩
    exact ⟨hrvc, hrvv, hsize⟩
  · rintro ⟨hrvc, hrvv, hsize⟩
    exact ⟨_, hrvc, _, hrvv, _, hsize, rfl⟩

theorem exists_ofLookup_iff :
    (∃ f, ofLookup lookup = .ok f) ↔ ∀ v : Variable, v.Valid lookup := by
  simp only [ofLookup_eq_ok_iff]
  constructor
  · rintro ⟨f, hf⟩ v
    cases v with
    | rvc => exact exists_hasValue_iff.1 ⟨_, hf.useRvc⟩
    | rvv => exact exists_hasValue_iff.1 ⟨_, hf.useRvv⟩
    | maxVectorSize => exact exists_hasValue_iff.1 ⟨_, hf.maxVectorSize⟩
  · intro h
    obtain ⟨useRvc, hrvc⟩ := exists_hasValue_iff.2 (h .rvc)
    obtain ⟨useRvv, hrvv⟩ := exists_hasValue_iff.2 (h .rvv)
    obtain ⟨maxVectorSize, hsize⟩ := exists_hasValue_iff.2 (h .maxVectorSize)
    exact ⟨⟨useRvc, useRvv, maxVectorSize⟩, hrvc, hrvv, hsize⟩

theorem ofLookup_eq_error_iff {e : FeatureError} :
    ofLookup lookup = .error e ↔ ∃ (v : Variable) (text : String),
      v.FirstInvalid lookup ∧ lookup v.name = some text ∧ e = .invalidValue v.name text := by
  simp only [ofLookup, bind_eq_error_iff, readVariable_eq_error_iff truth?_eq_some_iff,
    readVariable_eq_error_iff size?_eq_some_iff, readVariable_eq_ok_iff truth?_eq_some_iff,
    readVariable_eq_ok_iff size?_eq_some_iff]
  constructor
  · rintro (⟨text, htext, hnone, rfl⟩ | ⟨_, hrvc, hrest⟩)
    · exact ⟨.rvc, text, ⟨nofun, fun hvalid => hnone (hvalid text htext)⟩, htext, rfl⟩
    have hbefore : Variable.rvc.Valid lookup := exists_hasValue_iff.1 ⟨_, hrvc⟩
    obtain ⟨text, htext, hnone, rfl⟩ | ⟨_, hrvv, hrest⟩ := hrest
    · exact ⟨.rvv, text, ⟨List.forall_mem_singleton.2 hbefore,
        fun hvalid => hnone (hvalid text htext)⟩, htext, rfl⟩
    have hbefore' : Variable.rvv.Valid lookup := exists_hasValue_iff.1 ⟨_, hrvv⟩
    obtain ⟨text, htext, hnone, rfl⟩ | ⟨_, -, ⟨⟩⟩ := hrest
    exact ⟨.maxVectorSize, text, ⟨List.forall_mem_cons.2 ⟨hbefore,
      List.forall_mem_singleton.2 hbefore'⟩, fun hvalid => hnone (hvalid text htext)⟩, htext, rfl⟩
  · rintro ⟨v, text, ⟨hbefore, hinvalid⟩, htext, rfl⟩
    have hnone : ¬ v.Accepts (Text.trim text.toList) := by
      refine fun haccepts => hinvalid fun text' htext' => ?_
      obtain rfl := Option.some.inj (htext.symm.trans htext')
      exact haccepts
    cases v with
    | rvc => exact .inl ⟨text, htext, hnone, rfl⟩
    | rvv =>
      obtain ⟨_, hrvc⟩ := exists_hasValue_iff.2 (hbefore .rvc (by decide))
      exact .inr ⟨_, hrvc, .inl ⟨text, htext, hnone, rfl⟩⟩
    | maxVectorSize =>
      obtain ⟨_, hrvc⟩ := exists_hasValue_iff.2 (hbefore .rvc (by decide))
      obtain ⟨_, hrvv⟩ := exists_hasValue_iff.2 (hbefore .rvv (by decide))
      exact .inr ⟨_, hrvc, .inr ⟨_, hrvv, .inl ⟨text, htext, hnone, rfl⟩⟩⟩

theorem Pads.hasValue_iff {padded : String → Option String} (h : Pads padded lookup) (v : Variable)
    {α : Type} {Denotes : List Char → α → Prop} {otherwise x : α} :
    HasValue (padded v.name) Denotes otherwise x ↔
      HasValue (lookup v.name) Denotes otherwise x := by
  have hv := h v
  generalize padded v.name = paddedText, lookup v.name = text at hv ⊢
  cases hv with
  | none => rfl
  | some hpad =>
    obtain ⟨left, right, hblank, heq⟩ := hpad
    rw [List.forall_mem_append] at hblank
    rw [HasValue, HasValue, heq, Text.trim_append hblank.1 hblank.2]

theorem ofLookup_of_pads {padded : String → Option String} (h : Pads padded lookup) {f : Features}
    (hf : ofLookup lookup = .ok f) : ofLookup padded = .ok f := by
  rw [ofLookup_eq_ok_iff] at hf ⊢
  exact ⟨(h.hasValue_iff .rvc).2 hf.useRvc, (h.hasValue_iff .rvv).2 hf.useRvv,
    (h.hasValue_iff .maxVectorSize).2 hf.maxVectorSize⟩

theorem ofLookup_readsExactly (lookup : String → Option String) : ReadsExactly lookup where
  exists_ok_iff := exists_ofLookup_iff
  ok_iff _ := ofLookup_eq_ok_iff
  error_iff _ := ofLookup_eq_error_iff
  padded _ _ hpads hf := ofLookup_of_pads hpads hf

end Lookup

end Features

end RiscvAssembler
