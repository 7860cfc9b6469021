import Mathlib.Tactic.IntervalCases
import HttpBench.Json.Decode

/-!
# What a reader makes of a written value

A number that is not finite is written as `null` (`Value.written`); everything else is written as it is. A
decoder reads a value as `a` when it makes `a` of the written form (`Decoder.Reads`), and a reader of fields
yields `a` from the members of an object when it makes `a` of their written forms (`Reader.Yields`).

There is one lemma for each kind of value and one for each way to ask for a field, so that the proof that a
record is read back goes through its fields in their order:

* **single values**: truth values, texts, finite figures, natural numbers within their bound, names of a choice;
* **many values**: lists, and tables in the order of their names;
* **fields**: `Reader.Yields.bind_field` and its two companions take one field and leave the rest to be read.
-/

namespace HttpBench.Json

open Number

variable {R A B : Type}

/-! ## The written form -/

section
variable [Scalar R]

mutual

/-- **The value that is written**: `null` in place of a number that is not finite. -/
def Value.written : Value R → Value R
  | .real x => if Scalar.isFinite x then .real x else .null
  | .array items => .array (writtenItems items)
  | .object members => .object (writtenMembers members)
  | .null => .null
  | .bool b => .bool b
  | .integer n => .integer n
  | .string s => .string s

/-- The items of an array as they are written. -/
def writtenItems : List (Value R) → List (Value R)
  | [] => []
  | v :: rest => v.written :: writtenItems rest

/-- The members of an object as they are written. -/
def writtenMembers : List (String × Value R) → List (String × Value R)
  | [] => []
  | (name, v) :: rest => (name, v.written) :: writtenMembers rest

end

theorem writtenItems_eq_map (items : List (Value R)) : writtenItems items = items.map Value.written := by
  induction items with
  | nil => rfl
  | cons v rest ih => rw [writtenItems, ih, List.map_cons]

theorem writtenMembers_eq_map (members : List (String × Value R)) :
    writtenMembers members = members.map fun m => (m.1, m.2.written) := by
  induction members with
  | nil => rfl
  | cons m rest ih => rw [writtenMembers, ih, List.map_cons]

/-- Writing the members changes none of their names. -/
theorem find?_writtenMembers (members : List (String × Value R)) (name : String) :
    ((writtenMembers members).find? (·.1 == name)).map (·.2)
      = ((members.find? (·.1 == name)).map (·.2)).map Value.written := by
  rw [writtenMembers_eq_map, List.find?_map, Option.map_map, Option.map_map]
  rfl

/-! ## Decoders and readers -/

/-- The decoder reads the value as `a` once it is written. -/
def Decoder.Reads (decode : Decoder R A) (v : Value R) (a : A) : Prop := decode v.written = some a

/-- The reader yields `a` from the members once they are written, and leaves them to be read again. -/
def Reader.Yields (reader : Reader R A) (members : List (String × Value R)) (a : A) : Prop :=
  reader (.named (writtenMembers members)) = some (a, .named (writtenMembers members))

namespace Decoder.Reads

variable {decode : Decoder R A} {v : Value R} {a : A}

/-- What is read can be taken further. -/
theorem map (h : decode.Reads v a) (f : A → B) : Reads (fun v => (decode v).map f) v (f a) :=
  congrArg (Option.map f) h

theorem bool (b : Bool) : asBool.Reads (.bool b : Value R) b := by
  rw [Reads, Value.written, asBool]

theorem string (s : String) : asString.Reads (.string s : Value R) s := by
  rw [Reads, Value.written, asString]

/-- A finite figure is read as it is; one that is not finite was written as `null`, which no figure is. -/
theorem real {x : R} (h : Scalar.isFinite x = true) : asReal.Reads (.real x) x := by
  rw [Reads, Value.written, if_pos h, asReal]

theorem natBelow {n bound : Nat} (h : n < bound) : (asNatBelow bound).Reads (.nat n : Value R) n := by
  have hwithin : (decide (0 ≤ (n : Int)) && decide ((n : Int) < (bound : Int))) = true := by simpa using h
  rw [Reads, Value.nat, Value.written, asNatBelow, if_pos hwithin, Int.toNat_natCast]

theorem nat {n : Nat} (h : n < range64) : asNat.Reads (.nat n : Value R) n := natBelow h

/-- A name of a choice is read as what it names. -/
theorem choice {choices : List (String × A)} {name : String}
    (h : (choices.find? (·.1 == name)).map (·.2) = some a) :
    (asChoice choices).Reads (.string name : Value R) a := by
  rw [Reads, Value.written, asChoice, asChoiceAround, h]

/-- **A value that may be absent**: `null` stands for its absence, and no value is read from it. -/
theorem option {encode : A → Value R} {x : Option A} (hnull : decode .null = none)
    (h : ∀ a, x = some a → decode.Reads (encode a) a) : Reads (nullable decode) (.ofOption encode x) x := by
  cases x with
  | none => rw [Reads, Value.ofOption, Value.written, nullable]
  | some a =>
    have hread : decode (encode a).written = some a := h a rfl
    rw [Reads, Value.ofOption, nullable, hread, Option.map_some]
    intro hwritten
    rw [hwritten, hnull] at hread
    cases hread

/-- What is put into a list one by one is taken out of it one by one. -/
theorem mapM_map {l : List B} {f : A → Option B} {g : B → A} (h : ∀ b ∈ l, f (g b) = some b) :
    (l.map g).mapM f = some l := by
  induction l with
  | nil => rfl
  | cons b rest ih =>
    rw [List.map_cons, List.mapM_cons, h b List.mem_cons_self, ih fun b' hb' => h b' (List.mem_cons_of_mem b hb')]
    rfl

theorem list {encode : A → Value R} {items : List A} (h : ∀ a ∈ items, decode.Reads (encode a) a) :
    (asList decode).Reads (.ofList encode items) items := by
  rw [Reads, Value.ofList, Value.written, asList, writtenItems_eq_map, List.map_map]
  exact mapM_map h

/-- **A table** is read in the order of its names, whatever the order it is written in. -/
theorem table {encode : A → Value R} {entries : List (String × A)}
    (h : ∀ e ∈ entries, decode.Reads (encode e.2) e.2) :
    (asTable decode).Reads (.ofTable encode entries) (entries.mergeSort fun a b => decide (a.1 ≤ b.1)) := by
  have hentries : ((entries.map fun e => (e.1, encode e.2)).map fun m => (m.1, m.2.written)).mapM
      (fun m => (decode m.2).map fun a => (m.1, a)) = some entries := by
    rw [List.map_map]
    apply mapM_map
    intro e he
    have hread : decode (encode e.2).written = some e.2 := h e he
    rw [Function.comp_apply, hread, Option.map_some]
  rw [Reads, Value.ofTable, Value.written, asTable, writtenMembers_eq_map, hentries]
  rfl

/-- A record is read when its fields are. -/
theorem record {reader : Reader R A} {members : List (String × Value R)} (h : reader.Yields members a) :
    (Json.record reader).Reads (.object members) a := by
  have hyields : reader (.named (writtenMembers members)) = some (a, .named (writtenMembers members)) := h
  rw [Reads, Value.written, Json.record, hyields, Option.map_some]

end Decoder.Reads

namespace Reader.Yields

variable {decode : Decoder R A} {next : A → Reader R B} {members : List (String × Value R)} {name : String}
  {v : Value R} {a : A} {b : B}

theorem pure (a : A) : Yields (Pure.pure a : Reader R A) members a := rfl

theorem bind {reader : Reader R A} (h : reader.Yields members a) (hnext : (next a).Yields members b) :
    Yields (reader >>= next) members b := by
  have hyields : reader (.named (writtenMembers members)) = some (a, .named (writtenMembers members)) := h
  calc (reader >>= next) (.named (writtenMembers members))
      = (reader (.named (writtenMembers members))).bind fun r => next r.1 r.2 := rfl
    _ = next a (.named (writtenMembers members)) := by rw [hyields, Option.bind_some]
    _ = _ := hnext

/-- A field that is there is taken in its written form. -/
theorem takeField (hfield : (Value.object members).get? name = some v) :
    Yields (Json.takeField name) members (some v.written) := by
  have hfound : (members.find? (·.1 == name)).map (·.2) = some v := hfield
  have hwritten := find?_writtenMembers members name
  rw [hfound, Option.map_some] at hwritten
  exact congrArg (fun found => some (found, Fields.named (writtenMembers members))) hwritten

/-- What a decoder reads is yielded, and no field is taken for it. -/
theorem lift (hread : decode.Reads v a) : Yields (StateT.lift (decode v.written)) members a := by
  have hdecode : decode v.written = some a := hread
  exact congrArg (fun r => r.bind fun x => some (x, Fields.named (writtenMembers members))) hdecode

/-- **A field that must be there.** -/
theorem field (hfield : (Value.object members).get? name = some v) (hread : decode.Reads v a) :
    Yields (Json.field name decode) members a :=
  bind (takeField hfield) (lift hread)

/-- A field that must be there, with more fields to be read. -/
theorem bind_field (hfield : (Value.object members).get? name = some v) (hread : decode.Reads v a)
    (hnext : (next a).Yields members b) : Yields (Json.field name decode >>= next) members b :=
  bind (field hfield hread) hnext

/-- **A field with a default**, where it is there. -/
theorem bind_fieldOr {default : A} (hfield : (Value.object members).get? name = some v) (hread : decode.Reads v a)
    (hnext : (next a).Yields members b) : Yields (fieldOr name decode default >>= next) members b :=
  bind (bind (takeField hfield) (lift hread)) hnext

/-- **A field that may be `null`**, where it is there. -/
theorem bind_optionalField {next : Option A → Reader R B} {x : Option A}
    (hfield : (Value.object members).get? name = some v) (hread : Decoder.Reads (nullable decode) v x)
    (hnext : (next x).Yields members b) : Yields (optionalField name decode >>= next) members b :=
  bind_fieldOr hfield hread hnext

end Reader.Yields

end

/-! ## Numerals -/

/-- The decimal digits of a positive number do not start with a zero. -/
theorem head?_toDigits {n : Nat} (h : 0 < n) : (Nat.toDigits 10 n).head? ≠ some '0' := by
  induction n using Nat.strong_induction_on with
  | _ n ih =>
    rcases Nat.lt_or_ge n 10 with hsmall | hlarge
    · rw [Nat.toDigits_of_lt_base hsmall]
      interval_cases n <;> decide
    · have hfirst : (Nat.toDigits 10 (n / 10)).head?.isSome = true := List.isSome_head?.mpr Nat.toDigits_ne_nil
      rw [Nat.toDigits_of_base_le (by decide) hlarge, List.head?_append, Option.or_of_isSome hfirst]
      exact ih (n / 10) (Nat.div_lt_self h (by decide)) (Nat.div_pos hlarge (by decide))

/-- **A number within its bound is read back from its numeral.** -/
theorem numeralBelow?_repr {n bound : Nat} (h : n < bound) : numeralBelow? bound (Nat.repr n) = some n := by
  have htext : (Nat.repr n).toList = Nat.toDigits 10 n := by
    rw [Nat.repr_eq_ofList_toDigits, String.toList_ofList]
  have hdigits : (Nat.toDigits 10 n).all Char.isDigit = true :=
    List.all_eq_true.mpr fun _ hc => Nat.isDigit_of_mem_toDigits (by decide) (by decide) hc
  have hsome : (Nat.toDigits 10 n).isEmpty = false := List.isEmpty_eq_false_iff.mpr Nat.toDigits_ne_nil
  have hzero : (decide ((Nat.toDigits 10 n).length > 1) && (Nat.toDigits 10 n).head? == some '0') = false := by
    rcases Nat.eq_zero_or_pos n with rfl | hpos
    · rfl
    · rw [beq_eq_false_iff_ne.mpr (head?_toDigits hpos), Bool.and_false]
  have hvalue : (Nat.toDigits 10 n).foldl (fun n c => n * 10 + (c.toNat - 48)) 0 = n := by
    have hread : Nat.ofDigitChars 10 (Nat.toDigits 10 n) 0 = n := Nat.ofDigitChars_ten_toDigits
    simp only [Nat.ofDigitChars_eq_foldl, Nat.mul_comm 10] at hread
    exact hread
  simp only [numeralBelow?, htext, hsome, hdigits, hzero, hvalue, Bool.not_true, Bool.or_self, if_pos h]
  rfl

end HttpBench.Json
