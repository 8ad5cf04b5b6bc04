import Faultline.Json.Reader

/-!
# Reading records

A record is written in JSON as an object with known members, or as an array that
gives the members by position.  Members that are not known are skipped.

## Main definitions

* `readMembers` — the known members of an object, in the order of the text.
* `readPositions` — members given by position.
* `readRecord` — either of the two.
-/

namespace Faultline.Json

variable {α : Type}

/-! ### Members by name -/

/-- Reads the colon after a name. -/
def readColon (cs : List Char) : Except Fault (List Char) :=
  match skipSpace cs with
  | [] => .error .incomplete
  | ':' :: r => .ok r
  | _ => .error .malformed

/-- Goes to the name of the next member: past the comma, unless it is the first one.
Returns `none` with the rest of the text at the end of the object. -/
def nextName (first : Bool) (cs : List Char) : Except Fault (Option (List Char) × List Char) :=
  match skipSpace cs with
  | [] => .error .incomplete
  | '}' :: r => .ok (none, r)
  | ',' :: r =>
    if first then .error .malformed
    else match skipSpace r with
      | [] => .error .incomplete
      | '"' :: r => .ok (some r, [])
      | _ => .error .malformed
  | '"' :: r => if first then .ok (some r, []) else .error .malformed
  | _ => .error .malformed

/-- Reads members up to the end of the object.  A known member is refused when its name
comes a second time, before its value is looked at. -/
def readMembersFrom (known : List String) (value : Reader α) :
    Nat → List (String × α) → Bool → Reader (List (String × α))
  | 0, _, _, _ => .error .malformed
  | fuel + 1, seen, first, cs => do
    match ← nextName first cs with
    | (none, r) => return (seen, r)
    | (some r, _) =>
      let (name, r) ← readText r
      let name := String.ofList name
      if name ∈ known then
        if (seen.lookup name).isSome then throw (.mismatch (.repeated name))
        else
          let r ← readColon r
          let (x, r) ← value r
          readMembersFrom known value fuel (seen ++ [(name, x)]) false r
      else
        let r ← readColon r
        let r ← skipValue r
        readMembersFrom known value fuel seen false r

/-- Reads the known members of an object, from the character after its brace on. -/
def readMembers (known : List String) (value : Reader α) : Reader (List (String × α)) :=
  fun cs => readMembersFrom known value (cs.length + 1) [] true cs

/-! ### Members by position -/

/-- The end of an array whose members have all been read. -/
def closeArray (cs : List Char) : Except Fault (List Char) :=
  match skipSpace cs with
  | [] => .error .incomplete
  | ']' :: r => .ok r
  | _ => .error .malformed

/-- Reads members by position up to the end of the array; later ones may be absent. -/
def readPositionsFrom (value : Reader α) : Bool → List String → Reader (List (String × α))
  | _, [], cs => do
    let r ← closeArray cs
    return ([], r)
  | first, name :: names, cs =>
    match skipSpace cs with
    | [] => .error .incomplete
    | ']' :: r => .ok ([], r)
    | c :: r =>
      if first then do
        let (x, r) ← value (c :: r)
        let (xs, r) ← readPositionsFrom value false names r
        return ((name, x) :: xs, r)
      else if c = ',' then
        match skipSpace r with
        | [] => .error .incomplete
        | ']' :: _ => .error .malformed
        | r => do
          let (x, r) ← value r
          let (xs, r) ← readPositionsFrom value false names r
          return ((name, x) :: xs, r)
      else .error .malformed

/-- Reads members by position, from the character after the bracket on. -/
def readPositions (known : List String) (value : Reader α) : Reader (List (String × α)) :=
  readPositionsFrom value true known

/-! ### Records -/

/-- Reads a record in either form; anything else is refused. -/
def readRecord (wanted : String) (known : List String) (value : Reader α) :
    Reader (List (String × α)) := fun cs =>
  match skipSpace cs with
  | '[' :: r => readPositions known value r
  | '{' :: r => readMembers known value r
  | r => refuse wanted r

end Faultline.Json
