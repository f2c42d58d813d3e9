import Mathlib
import PayloadSchema.Proofs.Validation.Recursion
import PayloadSchema.Proofs.Validation.References

/-!
How deep a payload may be. A list or an object takes one level of room. The shape check of a union
takes levels too, one for the union and one for each that is nested in it, whatever value is
checked, so that room may run out for a payload that is not too deep.
-/
namespace PayloadSchema
open Outcome

/-- A value that is a greatest one over a list is no less than the value of any member. -/
theorem le_greatest {α : Type} {f : α → Nat} {greatest : List α → Nat}
    (hcons : ∀ a as, greatest (a :: as) = max (f a) (greatest as)) {a : α} {as : List α}
    (h : a ∈ as) : f a ≤ greatest as := by
  induction as with
  | nil => cases h
  | cons b as ih =>
    rw [hcons, le_max_iff]
    obtain rfl | h := List.mem_cons.1 h
    · exact .inl le_rfl
    · exact .inr (ih h)

namespace Json

mutual

def depth : Json → Nat
  | array items => depthItems items + 1
  | object members => depthMembers members + 1
  | _ => 0

def depthItems : List Json → Nat
  | [] => 0
  | v :: rest => max (depth v) (depthItems rest)

def depthMembers : Members → Nat
  | [] => 0
  | (_, v) :: rest => max (depth v) (depthMembers rest)

end

theorem depth_le_depthItems {items : List Json} {v : Json} (h : v ∈ items) :
    v.depth ≤ depthItems items :=
  le_greatest (fun _ _ => rfl) h

theorem depth_le_depthMembers {members : Members} {m : String × Json} (h : m ∈ members) :
    m.2.depth ≤ depthMembers members := by
  have hcons (m : String × Json) (rest : Members) :
      depthMembers (m :: rest) = max m.2.depth (depthMembers rest) := rfl
  exact le_greatest hcons h

theorem depth_pos {raw : Json} (h : raw.IsContainer) : 0 < raw.depth := by
  cases raw with
  | array items => exact Nat.succ_pos _
  | object members => exact Nat.succ_pos _
  | _ => exact h.elim

end Json

namespace Schema

mutual

/-- The levels of unions at the top of a schema: none if it is no union, and else one more than the
most that an alternative has. -/
def unionLevels : Schema → Nat
  | .union candidates => candidateLevels candidates + 1
  | _ => 0

def candidateLevels : List Schema → Nat
  | [] => 0
  | s :: rest => max (unionLevels s) (candidateLevels rest)

end

theorem unionLevels_lt {cs : List Schema} {s : Schema} (h : s ∈ cs) :
    s.unionLevels < (Schema.union cs).unionLevels :=
  Nat.lt_succ_of_le (le_greatest (fun _ _ => rfl) h)

/-- What a schema asks of the value that a path leads to: on the way it goes into the parts of
containers, and into any alternative of a union. -/
inductive At : Schema → Path → Schema → Prop
  | here (s : Schema) : At s [] s
  | candidate {cs : List Schema} {s t : Schema} {path : Path} (hs : s ∈ cs) (h : At s path t) :
      At (.union cs) path t
  | item {items t : Schema} {least most : Option Nat} {i : Nat} {path : Path}
      (h : At items path t) : At (.list items least most) (.index i :: path) t
  | value {values t : Schema} {k : String} {path : Path} (h : At values path t) :
      At (.dict values) (.key k :: path) t
  | field {c : Composite} {name : String} {f : Field} {t : Schema} {path : Path}
      (hf : c.field? name = some f) (h : At f.schema path t) :
      At (.object c) (.field name :: path) t
  | additional {c : Composite} {name : String} {s t : Schema} {path : Path}
      (hf : c.field? name = none) (ha : c.additional = .typed s) (h : At s path t) :
      At (.object c) (.field name :: path) t

theorem references_eq_nil_of_part {s t : Schema} (hs : s.references = []) (hp : Part t s) :
    t.references = [] := by
  rw [List.eq_nil_iff_forall_not_mem] at hs ⊢
  exact fun name h => hs name (mem_references_of_part hp h)

end Schema

namespace Validator
variable {v : Validator} {raw : Json} {room limit : Nat} {s t head : Schema} {cs : List Schema}
  {e : ValidationError}

/-- Without references, a shape check fails only if unions are nested deeper than there is room. -/
theorem room_le_unionLevels (hs : s.references = []) (h : v.acceptsShape raw room s = .error e) :
    room ≤ s.unionLevels := by
  induction room generalizing s with
  | zero => exact Nat.zero_le _
  | succ room ih =>
    cases s with
    | primitive => cases h
    | ref name => cases hs
    | union cs =>
      obtain ⟨t, ht, h⟩ := anyM_eq_error h
      have hle := ih (Schema.references_eq_nil_of_part hs (.candidate ht)) h
      exact Nat.lt_of_le_of_lt hle (Schema.unionLevels_lt ht)
    | _ => cases raw <;> cases h

theorem room_lt_of_choose (hs : (Schema.union cs).references = [])
    (h : v.choose raw room cs = .error e) (hc : e.cause = .depthExceeded limit) :
    room < (Schema.union cs).unionLevels := by
  obtain h | ⟨found, -, h⟩ := bind_eq_error.1 h
  · obtain ⟨t, ht, h⟩ := findM?_eq_error h
    have hle := room_le_unionLevels (Schema.references_eq_nil_of_part hs (.candidate ht)) h
    exact Nat.lt_of_le_of_lt hle (Schema.unionLevels_lt ht)
  · cases found with
    | some t => cases h
    | none =>
      cases h
      cases hc

/-- Without references, only the choice of a union can go wrong before a leaf or a container is
reached: what has been chosen is settled. -/
theorem exists_of_settle_error (hs : s.references = [])
    (h : v.settle raw room (room + 2) s = .error e) :
    ∃ cs, s = .union cs ∧ v.choose raw room cs = .error e := by
  cases s with
  | ref name => cases hs
  | union cs =>
    obtain h | ⟨t, ht, h⟩ := bind_eq_error.1 h
    · exact ⟨cs, rfl, h⟩
    · obtain ⟨head, hhead, -⟩ :=
        settle_of_acceptsShape (Nat.le_refl room) (Nat.le_succ room) (acceptsShape_of_choose ht)
      cases hhead.symm.trans h
  | _ => cases h

/-- A schema without references is settled on one of its alternatives, or on itself. -/
theorem at_of_settle {n : Nat} (hs : s.references = []) (h : v.settle raw room n s = .ok head) :
    head.references = [] ∧ ∀ path t, head.At path t → s.At path t := by
  induction n generalizing s with
  | zero => cases h
  | succ n ih =>
    cases s with
    | ref name => cases hs
    | union cs =>
      obtain ⟨t, ht, h⟩ := bind_eq_ok.1 h
      have hmem := choose_mem ht
      obtain ⟨hhead, hat⟩ := ih (Schema.references_eq_nil_of_part hs (.candidate hmem)) h
      exact ⟨hhead, fun path u hu => .candidate hmem (hat path u hu)⟩
    | _ =>
      cases h
      exact ⟨hs, fun path t ht => ht⟩

/-- Why room may run out: a payload that holds more containers inside one another than there is
room, or a union at the place of the error that takes more levels than are left there. -/
def Exhausts (s : Schema) (raw : Json) (room : Nat) (e : ValidationError) : Prop :=
  room < raw.depth ∨
    ∃ cs, s.At e.path (.union cs) ∧ e.path.length ≤ raw.depth ∧
      room < e.path.length + (Schema.union cs).unionLevels

/-- One more container around the value takes one more level of room. -/
theorem Exhausts.within {part : Json} {segment : Segment} {d : ValidationError}
    (h : Exhausts t part room d) (hdepth : part.depth < raw.depth)
    (hat : ∀ path u, t.At path u → s.At (segment :: path) u) :
    Exhausts s raw (room + 1) (d.within segment) := by
  obtain h | ⟨cs, hcs, hpath, h⟩ := h
  · exact .inl (Nat.lt_of_le_of_lt h hdepth)
  · have hlength : (d.within segment).path.length = d.path.length + 1 := rfl
    refine .inr ⟨cs, hat d.path _ hcs, ?_, ?_⟩ <;> omega

section
variable (ih : ∀ r < room, ∀ t part d, t.references = [] → v.apply r t part = .error d →
  d.cause = .depthExceeded limit → Exhausts t part r d)
include ih

theorem MemberRefuses.exhausts {r : Nat} (hr : r < room) {c : Composite} {members : Members}
    {m : String × Json} (hs : (Schema.object c).references = []) (hm : m ∈ members)
    (h : MemberRefuses (fun s raw d => v.apply r s raw = .error d) c m e)
    (hc : e.cause = .depthExceeded limit) :
    Exhausts (.object c) (.object members) (r + 1) e := by
  have hdepth : m.2.depth < (Json.object members).depth :=
    Nat.lt_succ_of_le (Json.depth_le_depthMembers hm)
  cases h with
  | declared hf h =>
    obtain ⟨hmem, rfl⟩ := Composite.field?_mem hf
    cases h with
    | null => cases hc
    | value _ hp =>
      have hpart := Schema.references_eq_nil_of_part hs (.field hmem)
      exact (ih r hr _ _ _ hpart hp hc).within hdepth fun path u hu => .field hf hu
  | additional hf h =>
    generalize hpolicy : c.additional = policy at h
    cases h with
    | forbidden => cases hc
    | typed hp =>
      have hpart := Schema.references_eq_nil_of_part hs (.additional hpolicy)
      exact (ih r hr _ _ _ hpart hp hc).within hdepth fun path u hu => .additional hf hpolicy hu

/-- One level: a leaf or a container runs out of room where it stands, or in a part. -/
theorem HeadRefuses.exhausts (hs : s.references = []) (h : HeadRefuses v (v.parts room) s raw e)
    (hc : e.cause = .depthExceeded limit) : Exhausts s raw room e := by
  cases room with
  | zero =>
    cases h with
    | deep _ hcontainer => exact .inl (Json.depth_pos hcontainer)
    | item hi => cases hi
    | entry hi => cases hi
    | member hi => cases hi
    | _ => cases hc
  | succ r =>
    have hr : r < r + 1 := r.lt_succ_self
    cases h with
    | deep hi => cases hi
    | item hi hk hd =>
      cases hi
      have hpart := Schema.references_eq_nil_of_part hs .items
      have hdepth := Nat.lt_succ_of_le (Json.depth_le_depthItems (List.mem_of_getElem? hk))
      exact (ih r hr _ _ _ hpart hd hc).within hdepth fun path u hu => .item hu
    | entry hi hm hd =>
      cases hi
      have hpart := Schema.references_eq_nil_of_part hs .values
      have hdepth := Nat.lt_succ_of_le (Json.depth_le_depthMembers hm)
      exact (ih r hr _ _ _ hpart hd hc).within hdepth fun path u hu => .value hu
    | member hi hm h =>
      cases hi
      exact h.exhausts ih hr hs hm hc
    | _ => cases hc

end

theorem exhausts_of_apply (hs : s.references = []) (h : v.apply room s raw = .error e)
    (hc : e.cause = .depthExceeded limit) : Exhausts s raw room e := by
  induction room using Nat.strong_induction_on generalizing s raw e with
  | _ room ih =>
    -- only parts have less room, so unions and their alternatives are passed in one step
    rw [apply_eq] at h
    obtain h | ⟨head, hsettle, h⟩ := bind_eq_error.1 h
    · obtain ⟨cs, rfl, hchoose⟩ := exists_of_settle_error hs h
      obtain ⟨cause, rfl, -⟩ := choose_eq_error hchoose
      have hlength : (ValidationError.here cause).path.length = 0 := rfl
      refine .inr ⟨cs, .here _, hlength ▸ Nat.zero_le _, ?_⟩
      rw [hlength, Nat.zero_add]
      exact room_lt_of_choose hs hchoose hc
    · obtain ⟨hhead, hat⟩ := at_of_settle hs hsettle
      have hrefuses := headRefuses_of_applyHead (settle_eq_ok hsettle).2 h
      obtain h | ⟨cs, hcs, h⟩ := hrefuses.exhausts (fun r hr t part d => ih r hr) hhead hc
      · exact .inl h
      · exact .inr ⟨cs, hat _ _ hcs, h⟩

/-- Without references, validation runs out of room only if the payload nests more containers than
the limit, or if the containers around some value and the levels of a union for it are more than
the limit. -/
theorem depthExceeded_of_containers_and_unions {v : Validator} {s : Schema} {raw : Json}
    {e : ValidationError} {limit : Nat} (hs : s.references = []) (h : v.validate s raw = .error e)
    (hc : e.cause = .depthExceeded limit) :
    v.maxDepth < raw.depth ∨
      ∃ cs, s.At e.path (.union cs) ∧ e.path.length ≤ raw.depth ∧
        v.maxDepth < e.path.length + (Schema.union cs).unionLevels :=
  exhausts_of_apply hs h hc

def cellsSchema : Schema := .list (.union [.leaf .integer, .leaf .string]) none none

def cellsPayload : Json := .array [.number (.ofInt 7)]

def cellsError : ValidationError := ⟨[.index 0], .depthExceeded 1⟩

theorem cells_depthExceeded :
    Validator.validate ⟨.empty, 1⟩ cellsSchema cellsPayload = .error cellsError := by
  cbv

/-- One list around a number is not deeper than one level, and yet exceeds it. -/
theorem cells_not_too_deep :
    cellsSchema.references = [] ∧
      Validator.validate ⟨.empty, 1⟩ cellsSchema cellsPayload = .error cellsError ∧
      cellsError.cause = .depthExceeded 1 ∧ ¬1 < cellsPayload.depth :=
  ⟨rfl, cells_depthExceeded, rfl, by decide⟩

/-- The list takes one level and the union of numbers and texts another. -/
theorem cells_containers_and_unions :
    cellsSchema.references = [] ∧
      Validator.validate ⟨.empty, 1⟩ cellsSchema cellsPayload = .error cellsError ∧
      ∃ cs, cellsSchema.At [.index 0] (.union cs) ∧ 1 ≤ cellsPayload.depth ∧
        1 < 1 + (Schema.union cs).unionLevels := by
  refine ⟨rfl, cells_depthExceeded, ?_⟩
  have hdepth : cellsPayload.depth = 1 := by decide
  obtain h | h := depthExceeded_of_containers_and_unions rfl cells_depthExceeded rfl
  · rw [hdepth] at h
    cases Nat.lt_irrefl 1 h
  · exact h

end Validator
end PayloadSchema
