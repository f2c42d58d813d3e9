import PayloadSchema.Proofs.Outcome
import PayloadSchema.Yaml.ToJson

/-!
The conversion to JSON without a stack. A failure starts at the node where it arises and is given
its path on the way back. The stack takes the path from the other end: it is the same before and
after each node that is converted, and when the conversion fails, the path from the node at hand to
the failure has been put on top of it.
-/
namespace PayloadSchema.Yaml

structure NoJson where
  path : Path
  reason : String

def NoJson.within (segment : Segment) (e : NoJson) : NoJson := ⟨segment :: e.path, e.reason⟩

namespace Value

mutual

def toJson : Value → Except NoJson Json
  | null => .ok .null
  | bool b => .ok (.bool b)
  | integer i => .ok (.number (.ofInt i))
  | real (.finite x) => .ok (.number x.toNumeral)
  | real x => .error ⟨[], "number " ++ x.text ++ " has no JSON form"⟩
  | string s => .ok (.string s)
  | tagged _ v => toJson v
  | sequence items => (itemsToJson 0 items).map .array
  | mapping entries => (entriesToJson [] entries).map .object

def itemsToJson (i : Nat) : List Value → Except NoJson (List Json)
  | [] => .ok []
  | v :: rest => do
    let v ← (toJson v).mapError (·.within (.index i))
    let rest ← itemsToJson (i + 1) rest
    pure (v :: rest)

def entriesToJson (seen : Members) : List (Value × Value) → Except NoJson Members
  | [] => .ok seen
  | (k, v) :: rest =>
    match keyText? k with
    | none => .error ⟨[], "mapping keys must be scalars"⟩
    | some key => do
      let v ← (toJson v).mapError (·.within (.key key))
      entriesToJson (seen.insert key v) rest

end

end Value

namespace Walk
variable {α β : Type}

def outcome (location : Path) : Except NoJson α → EStateM.Result String Path α
  | .ok a => .ok a location
  | .error e => .error e.reason (location ++ e.path)

/-- What a stack says at the end of a conversion, whatever was on it at the start. -/
def Follows (x : Walk α) (y : Except NoJson α) : Prop :=
  ∀ location, x.run location = outcome location y

theorem follows_pure (a : α) : Follows (pure a) (.ok a) := fun _ => rfl

theorem follows_throw (reason : String) : Follows (α := α) (throw reason) (.error ⟨[], reason⟩) :=
  fun location => congrArg (EStateM.Result.error reason) (List.append_nil location).symm

theorem Follows.bind {x : Walk α} {y : Except NoJson α} {f : α → Walk β} {g : α → Except NoJson β}
    (hx : Follows x y) (hf : ∀ a, Follows (f a) (g a)) : Follows (x >>= f) (y >>= g) := by
  intro location
  rw [EStateM.run_bind, hx location]
  cases y with
  | ok a => exact hf a location
  | error e => rfl

theorem Follows.map {x : Walk α} {y : Except NoJson α} (f : α → β) (hx : Follows x y) :
    Follows (x >>= fun a => pure (f a)) (y.map f) := by
  have hmap : y.map f = y >>= fun a => .ok (f a) := by cases y <;> rfl
  rw [hmap]
  exact hx.bind fun a => follows_pure (f a)

/-- A node below another one. Only a success takes its segment off the stack again. -/
theorem Follows.nested {x : Walk α} {y : Except NoJson α} {f : α → Walk β}
    {g : α → Except NoJson β} (segment : Segment) (hx : Follows x y)
    (hf : ∀ a, Follows (f a) (g a)) :
    Follows
      (do
        enter segment
        let a ← x
        leave
        f a)
      (y.mapError (·.within segment) >>= g) := by
  intro location
  have henter : (enter segment).run location = .ok () (location ++ [segment]) := rfl
  have hleave : leave.run (location ++ [segment]) = .ok () location :=
    congrArg (EStateM.Result.ok ()) List.dropLast_concat
  rw [EStateM.run_bind, henter]
  simp only
  rw [EStateM.run_bind, hx]
  cases y with
  | ok a =>
    simp only [outcome]
    rw [EStateM.run_bind, hleave]
    exact hf a location
  | error e =>
    have hpath : location ++ [segment] ++ e.path = location ++ segment :: e.path := by simp
    exact congrArg (EStateM.Result.error e.reason) hpath

end Walk

namespace Value
open Walk

mutual

theorem follows_walk : (v : Value) → Follows v.walk v.toJson
  | null => follows_pure _
  | bool _ => follows_pure _
  | integer _ => follows_pure _
  | string _ => follows_pure _
  | real x => by
    cases x with
    | finite x => exact follows_pure _
    | infinite | nan => exact follows_throw _
  | tagged _ v => follows_walk v
  | sequence items => (follows_walkItems 0 items).map Json.array
  | mapping entries => (follows_walkEntries [] entries).map Json.object

theorem follows_walkItems (i : Nat) :
    (items : List Value) → Follows (walkItems i items) (itemsToJson i items)
  | [] => follows_pure _
  | v :: rest => (follows_walk v).nested _ fun _ =>
    (follows_walkItems (i + 1) rest).bind fun _ => follows_pure _

theorem follows_walkEntries (seen : Members) :
    (entries : List (Value × Value)) →
      Follows (walkEntries seen entries) (entriesToJson seen entries)
  | [] => follows_pure _
  | (k, v) :: rest => by
    rw [walkEntries, entriesToJson]
    cases keyText? k with
    | none => exact follows_throw _
    | some key =>
      exact (follows_walk v).nested _ fun j => follows_walkEntries (seen.insert key j) rest

end

theorem load_eq (v : Value) (source : String) :
    v.load source = v.toJson.mapError fun e => .load source (e.path.text ++ ": " ++ e.reason) := by
  rw [load, follows_walk v []]
  cases v.toJson <;> rfl

end Value
end PayloadSchema.Yaml
