/-
Checked fields.

Settings and declarations arrive as plain objects and become structures.  A check of an
object looks at every field and reports all that is wrong, each with the path to the
value, the kind of the fault, and what a report shows of the value.  One thing stops a check
at once: a value that has to be gone through and has no parts.

`Checked` is therefore an applicative and no monad: the fields of a structure do not
depend on each other, and combining two checks joins their faults (`faults_join`).
-/

import OpenApiClient.Value.Display
import OpenApiClient.Value.Key
import OpenApiClient.Value.Kind
import OpenApiClient.Text.Digit
import OpenApiClient.Text.Split
import OpenApiClient.Text.Utf8

set_option autoImplicit false

namespace OpenApiClient.Validation

/-! ## Faults -/

/-- A step from a value to one of its parts. -/
inductive Step where
  | key (name : String)
  | index (i : Int)
  deriving DecidableEq, Repr

/-- What is wrong with a value. -/
inductive FaultKind where
  | missing
  | notText
  | notUtf8
  | notBool
  | badBool
  | notInt
  | badInt
  | fractionalInt
  | infiniteInt
  | longInt
  | notList
  | notTuple
  | notObject
  /-- A value that has to be an object with any members is none. -/
  | notTable
  /-- A value is none of these. -/
  | notMember (members : List String)
  deriving DecidableEq, Repr

/-- What a report shows of a value: its literal, if it can be written out, and the name of its
kind. -/
structure Exhibit where
  literal : Option String
  kind : String
  deriving DecidableEq, Repr

/-- What a report shows of a value. -/
def Exhibit.ofValue (v : Value) : Exhibit :=
  ⟨if v.isWritable then some v.literal else none, v.kind⟩

/-- A fault, the path to the value, and what a report shows of it. -/
structure Fault where
  path : List Step
  kind : FaultKind
  input : Exhibit
  deriving DecidableEq, Repr

/-- The result of a check. -/
inductive Checked (α : Type) where
  | ok (value : α)
  | faults (first : Fault) (more : List Fault)
  /-- A value that has to be gone through has no parts. -/
  | stopped

namespace Checked

variable {α β : Type}

/-- A check that found one fault, at the value itself. -/
def fault (kind : FaultKind) (v : Value) : Checked α := .faults ⟨[], kind, .ofValue v⟩ []

/-- Changes the value of a check. -/
def map (f : α → β) : Checked α → Checked β
  | .ok a => .ok (f a)
  | .faults x xs => .faults x xs
  | .stopped => .stopped

/-- Combines two checks, the left one first; faults are joined. -/
def seq (f : Checked (α → β)) (a : Checked α) : Checked β :=
  match f, a with
  | .stopped, _ => .stopped
  | _, .stopped => .stopped
  | .ok f, .ok a => .ok (f a)
  | .ok _, .faults x xs => .faults x xs
  | .faults x xs, .ok _ => .faults x xs
  | .faults x xs, .faults y ys => .faults x (xs ++ y :: ys)

instance : Applicative Checked where
  pure := .ok
  seq f a := seq f (a ())

theorem faults_join (x y : Fault) (xs ys : List Fault) :
    seq (.faults x xs : Checked (α → β)) (.faults y ys) = .faults x (xs ++ y :: ys) := rfl

/-- A check of a part, seen from the whole. -/
def within (step : Step) : Checked α → Checked α
  | .ok a => .ok a
  | .faults x xs =>
    .faults { x with path := step :: x.path } (xs.map fun f => { f with path := step :: f.path })
  | .stopped => .stopped

/-- The result of a check together with a fact that holds of every result. -/
def withFact {P : α → Prop} : (c : Checked α) → (∀ a, c = .ok a → P a) → Checked {a // P a}
  | .ok a, h => .ok ⟨a, h a rfl⟩
  | .faults x xs, _ => .faults x xs
  | .stopped, _ => .stopped

/-- Checks of several parts in order, numbered from `i` on. -/
def each (check : Value → Checked α) : Nat → List Value → Checked (List α)
  | _, [] => .ok []
  | i, v :: vs => List.cons <$> within (.index i) (check v) <*> each check (i + 1) vs

end Checked

/-! ## Checks of values -/

/-- A text; bytes that are well formed are one too. -/
def text (v : Value) : Checked String :=
  match v with
  | .scalar (.text s) => .ok s
  | .scalar (.bytes data) =>
    match Text.decode data with
    | .ok cs => .ok (.ofList cs)
    | .error _ => .fault .notUtf8 v
  | _ => .fault .notText v

/-- Whether a value is a text with a half of a surrogate pair in it.  Where a text is looked
into, and not only kept, it has to be without one. -/
def hasHalf (v : Value) : Bool := (v.text?.map fun s => s.toList.any Text.isHalf).getD false

/-- The texts that are truth values, in any case. -/
def truthWords : List (String × Bool) := [
  ("0", false), ("off", false), ("f", false), ("false", false), ("n", false), ("no", false),
  ("1", true), ("on", true), ("t", true), ("true", true), ("y", true), ("yes", true)]

/-- Whether an integer fits into a machine word.  Numbers beyond that are never counted as
truth values, nor as integers if they are written with a point. -/
def fitsWord (n : Int) : Bool := n.natAbs < 9223372036854775808

/-- A truth value: one, a word for one, or the numbers zero and one. -/
def bool (v : Value) : Checked Bool :=
  match v with
  | .scalar (.bool b) => .ok b
  | .scalar (.text s) =>
    let lower := String.ofList (s.toList.map Char.toLower)
    match truthWords.find? fun w => w.1 == lower with
    | some (_, b) => .ok b
    | none => .fault (if hasHalf v then .notUtf8 else .badBool) v
  | .scalar (.int n) => ofInt n
  | .scalar (.float x) =>
    match Number.toInt? x with
    | some n => ofInt n
    | none => .fault .notBool v
  | _ => .fault .notBool v
where
  /-- Zero and one are truth values. -/
  ofInt (n : Int) : Checked Bool :=
    if n = 0 then .ok false else if n = 1 then .ok true
    else if fitsWord n then .fault .badBool v else .fault .notBool v

/-- The part of a text before its point, if zeros and nothing else follow the point. -/
def withoutZeroFraction (s : List Char) : List Char :=
  match Text.splitFirst? '.' s with
  | some (whole, fraction) => if !fraction.isEmpty && fraction.all (· = '0') then whole else s
  | none => s

/-- A text without white space at its two ends. -/
def withoutWhiteSpace (s : List Char) : List Char :=
  ((s.dropWhile Text.isWhiteSpace).reverse.dropWhile Text.isWhiteSpace).reverse

/-- An integer: one, a truth value, a number without a fraction, or the text of one of
these in ASCII. -/
def int (v : Value) : Checked Int :=
  match v with
  | .scalar (.int n) => .ok n
  | .scalar (.bool b) => .ok (if b then 1 else 0)
  | .scalar (.float x) =>
    if x.isNaN || x.isInf then .fault .infiniteInt v
    else match Number.toInt? x with
      | some n => if fitsWord n then .ok n else .fault .longInt v
      | none => .fault .fractionalInt v
  | .scalar (.text s) =>
    let body := withoutZeroFraction (withoutWhiteSpace s.toList)
    if body.all fun c => c.toNat < 0x80 && !Text.isBlank c then
      match Text.readInt 10 body with
      | .ok n => .ok n
      | .error (.tooLong _) => .fault .longInt v
      | .error .illFormed => .fault .badInt v
    else .fault (if hasHalf v then .notUtf8 else .badInt) v
  | _ => .fault .notInt v

/-- The items of a list. -/
def list {α : Type} (check : Value → Checked α) (v : Value) : Checked (List α) :=
  match v with
  | .list items => Checked.each check 0 items
  | .set ms => Checked.each check 0 (ms.map Value.scalar)
  | _ => .fault .notList v

/-- The items of a list, whatever they are. -/
def row (v : Value) : Checked (List Value) :=
  match v with
  | .list items => .ok items
  | .set ms => .ok (ms.map Value.scalar)
  | _ => .fault .notTuple v

/-- A value, or none if it is absent. -/
def optional {α : Type} (check : Value → Checked α) (v : Value) : Checked (Option α) :=
  if v.isNull then .ok none else some <$> check v

/-- The step to the member with a key: a number if it is a small one, and else a name. -/
def Step.ofKey : Scalar → Step
  | .text s => .key s
  | .bool b => .index (if b then 1 else 0)
  | .int n => if fitsWord n then .index n else .key (Value.int n).literal
  | s => .key s.literal

/-- The members of an object whose keys have to be texts.  Of keys that are one text, the first
keeps its place and the last its value. -/
def entries {α : Type} (check : Value → Checked α) : Members → Checked (List (String × α))
  | [] => .ok []
  | (k, v) :: ms =>
    (fun name a rest => (name, (rest.lookup name).getD a) :: rest.filter (·.1 ≠ name))
      <$> Checked.within (.ofKey k) (Checked.within (.key "[key]") (text (.scalar k)))
      <*> Checked.within (.ofKey k) (check v)
      <*> entries check ms

/-- The names of checked entries are different: the first of equal names takes the place of the
others. -/
theorem entries_nodup {α : Type} {check : Value → Checked α} {ms : Members}
    {es : List (String × α)} (h : entries check ms = .ok es) : (es.map (·.1)).Nodup := by
  induction ms generalizing es with
  | nil =>
    rw [entries] at h
    cases h
    exact List.nodup_nil
  | cons m ms ih =>
    rw [entries] at h
    cases hk : Checked.within (.ofKey m.1) (Checked.within (.key "[key]") (text (.scalar m.1)))
    case ok name =>
      cases hv : Checked.within (.ofKey m.1) (check m.2)
      case ok a =>
        cases hr : entries check ms
        case ok rest =>
          rw [hk, hv, hr] at h
          cases h
          have hrest : (rest.map (·.1)).Nodup := ih hr
          refine List.nodup_cons.2 ⟨by simp, ?_⟩
          exact hrest.sublist (List.filter_sublist.map _)
        all_goals rw [hk, hv, hr] at h; cases h
      all_goals cases hr : entries check ms <;> rw [hk, hv, hr] at h <;> cases h
    all_goals
      cases hv : Checked.within (.ofKey m.1) (check m.2) <;>
        cases hr : entries check ms <;> rw [hk, hv, hr] at h <;> cases h

/-- The entries of a table, no two of them with the same name. -/
def distinctEntries {α : Type} (check : Value → Checked α) (ms : Members) :
    Checked {es : List (String × α) // (es.map (·.1)).Nodup} :=
  (entries check ms).withFact fun _ h => entries_nodup h

/-- An object whose keys have to be texts, and whose members can be anything. -/
def table (v : Value) : Checked Value :=
  match v with
  | .object n ms =>
    (fun es => .object n (es.map fun e => (.text e.1, e.2))) <$> entries .ok ms
  | _ => .fault .notTable v

/-- A structure with the fields that `check` reads from the members. -/
def object {α : Type} (check : Members → Checked α) (v : Value) : Checked α :=
  match v with
  | .object _ ms => check ms
  | _ => .fault .notObject v

/-- The parts of a value that is gone through: items, keys, or a single text. -/
def parts (v : Value) : Checked (List Value) :=
  match v with
  | .scalar .null => .ok []
  | .scalar (.text s) => .ok [.text s]
  | .scalar (.bytes data) => .ok (data.map fun b => .int b.toNat)
  | .list items => .ok items
  | .object _ ms => .ok (ms.map fun m => .scalar m.1)
  | .set ms => .ok (ms.map Value.scalar)
  | _ => .stopped

/-- Several texts: a list of them, the keys of an object, one text, or none. -/
def texts (v : Value) : Checked (List String) :=
  match parts v with
  | .ok items => Checked.each text 0 items
  | .faults x xs => .faults x xs
  | .stopped => .stopped

/-! ## Fields of an object -/

/-- A field that has to be there. -/
def required {α : Type} (ms : Members) (name : String) (check : Value → Checked α) :
    Checked α :=
  Checked.within (.key name) (match Members.getText? ms name with
    | some v => check v
    | none => .fault .missing (.object 0 ms))

/-- A field that has a default. -/
def withDefault {α : Type} (ms : Members) (name : String) (default : α)
    (check : Value → Checked α) : Checked α :=
  match Members.getText? ms name with
  | some v => Checked.within (.key name) (check v)
  | none => .ok default

end OpenApiClient.Validation
