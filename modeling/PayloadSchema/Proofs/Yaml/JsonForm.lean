import Mathlib
import PayloadSchema.Proofs.Path
import PayloadSchema.Proofs.Yaml.Walk

/-!
Which YAML values have a JSON form, and where the others fail. A number that is not finite has none
where it is used as a value, and neither has a mapping with a key that is no scalar. The conversion
reports the first such node in the order of the document.
-/
namespace PayloadSchema.Yaml
open Outcome

def Real.IsFinite (x : Real) : Prop := ∃ b, x = finite b

namespace Value
variable {v w : Value} {place : List Nat} {path : Path} {e : NoJson}

def IsScalar : Value → Prop
  | null | bool _ | integer _ | real _ | string _ => True
  | sequence _ | mapping _ | tagged _ _ => False

inductive Spelled : Value → String → Prop
  | null : Spelled .null "null"
  | true : Spelled (.bool .true) "true"
  | false : Spelled (.bool .false) "false"
  | integer (i : Int) : Spelled (.integer i) (toString i)
  | real (x : Real) : Spelled (.real x) x.text
  | string (s : String) : Spelled (.string s) s

/-- `v.Uses w` if `w` stands somewhere in `v`, but not in a key. -/
inductive Uses : Value → Value → Prop
  | self (v : Value) : Uses v v
  | tagged {tag : String} {v w : Value} (h : Uses v w) : Uses (.tagged tag v) w
  | item {items : List Value} {v w : Value} (hv : v ∈ items) (h : Uses v w) :
      Uses (.sequence items) w
  | value {entries : List (Value × Value)} {k v w : Value} (hv : (k, v) ∈ entries)
      (h : Uses v w) : Uses (.mapping entries) w

structure HasJsonForm (v : Value) : Prop where
  numbers : ∀ x, v.Uses (.real x) → x.IsFinite
  keys : ∀ entries, v.Uses (.mapping entries) → ∀ entry ∈ entries, entry.1.IsScalar

/-- `v.Leads place path w` if the path, followed from `v` on, ends at `w`. A position in a path is
that of an item, a key is written like that of an entry, and tags do not count. The place tells
where that is in the document: below a sequence the places are numbered by the items, and below a
mapping the keys and the values take turns. So the document lists its nodes in the lexicographic
order of their places. -/
inductive Leads : Value → List Nat → Path → Value → Prop
  | here (v : Value) : Leads v [] [] v
  | tagged {tag : String} {v w : Value} {place : List Nat} {path : Path}
      (h : Leads v place path w) : Leads (.tagged tag v) place path w
  | item {items : List Value} {i : Nat} {v w : Value} {place : List Nat} {path : Path}
      (hi : items[i]? = some v) (h : Leads v place path w) :
      Leads (.sequence items) (i :: place) (.index i :: path) w
  | value {entries : List (Value × Value)} {i : Nat} {k v w : Value} {text : String}
      {place : List Nat} {path : Path} (hi : entries[i]? = some (k, v)) (hk : k.Spelled text)
      (h : Leads v place path w) :
      Leads (.mapping entries) ((2 * i + 1) :: place) (.key text :: path) w

/-- A node without a JSON form: its place, and how it is reported. A number is reported at its own
path, and a key at the path of the mapping that holds it. -/
inductive Offends (v : Value) : List Nat → NoJson → Prop
  | number {place : List Nat} {path : Path} {x : Real} (h : v.Leads place path (.real x))
      (hx : ¬x.IsFinite) : Offends v place ⟨path, "number " ++ x.text ++ " has no JSON form"⟩
  | key {place : List Nat} {path : Path} {entries : List (Value × Value)} {i : Nat} {k w : Value}
      (h : v.Leads place path (.mapping entries)) (hi : entries[i]? = some (k, w))
      (hk : ¬k.IsScalar) : Offends v (place ++ [2 * i]) ⟨path, "mapping keys must be scalars"⟩

def FirstOffends (v : Value) (e : NoJson) : Prop :=
  ∃ place, v.Offends place e ∧ ∀ other d, v.Offends other d → place ≤ other

theorem keyText?_eq_none {k : Value} : k.keyText? = none ↔ ¬k.IsScalar := by
  cases k with
  | bool b => cases b <;> simp [keyText?, IsScalar]
  | _ => simp [keyText?, IsScalar]

theorem spelled_iff {k : Value} {text : String} : k.Spelled text ↔ k.keyText? = some text := by
  constructor
  · intro h
    cases h with
    | integer i => exact congrArg some (intText_eq_toString i)
    | _ => rfl
  · intro h
    cases k with
    | integer i =>
      cases h
      rw [intText_eq_toString]
      exact .integer i
    | null =>
      cases h
      exact .null
    | bool b =>
      cases b with
      | true =>
        cases h
        exact .true
      | false =>
        cases h
        exact .false
    | real x =>
      cases h
      exact .real x
    | string s =>
      cases h
      exact .string _
    | _ => cases h

namespace Offends

theorem tagged {tag : String} (h : v.Offends place e) : (tagged tag v).Offends place e := by
  cases h with
  | number h hx => exact .number (.tagged h) hx
  | key h hi hk => exact .key (.tagged h) hi hk

theorem item {items : List Value} {i : Nat} (hi : items[i]? = some v) (h : v.Offends place e) :
    (sequence items).Offends (i :: place) (e.within (.index i)) := by
  cases h with
  | number h hx => exact .number (.item hi h) hx
  | key h hj hk => exact .key (.item hi h) hj hk

theorem value {entries : List (Value × Value)} {i : Nat} {k : Value} {text : String}
    (hi : entries[i]? = some (k, v)) (hk : k.Spelled text) (h : v.Offends place e) :
    (mapping entries).Offends ((2 * i + 1) :: place) (e.within (.key text)) := by
  cases h with
  | number h hx => exact .number (.value hi hk h) hx
  | key h hj hk' => exact .key (.value hi hk h) hj hk'

end Offends

section HasJsonForm

theorem Uses.trans {u : Value} (h : v.Uses w) (hw : w.Uses u) : v.Uses u := by
  induction h with
  | self => exact hw
  | tagged _ ih => exact .tagged (ih hw)
  | item hv _ ih => exact .item hv (ih hw)
  | value hv _ ih => exact .value hv (ih hw)

theorem HasJsonForm.of_uses (h : v.HasJsonForm) (hw : v.Uses w) : w.HasJsonForm :=
  ⟨fun x hx => h.numbers x (hw.trans hx), fun entries hes => h.keys entries (hw.trans hes)⟩

theorem Leads.uses (h : v.Leads place path w) : v.Uses w := by
  induction h with
  | here => exact .self _
  | tagged _ ih => exact .tagged ih
  | item hi _ ih => exact .item (List.mem_of_getElem? hi) ih
  | value hi _ _ ih => exact .value (List.mem_of_getElem? hi) ih

theorem Offends.not_hasJsonForm (h : v.Offends place e) : ¬v.HasJsonForm := by
  intro hv
  cases h with
  | number h hx => exact hx (hv.numbers _ h.uses)
  | key h hi hk => exact hk (hv.keys _ h.uses _ (List.mem_of_getElem? hi))

/-- Below a key that is no scalar nothing is reported, but then the key is. -/
theorem Uses.exists_offends (h : v.Uses w) (hw : ∃ place e, w.Offends place e) :
    ∃ place e, v.Offends place e := by
  induction h with
  | self => exact hw
  | tagged _ ih =>
    obtain ⟨place, e, he⟩ := ih hw
    exact ⟨place, e, he.tagged⟩
  | item hv _ ih =>
    obtain ⟨place, e, he⟩ := ih hw
    obtain ⟨i, hi⟩ := List.getElem?_of_mem hv
    exact ⟨_, _, he.item hi⟩
  | @value entries k v w hv _ ih =>
    obtain ⟨place, e, he⟩ := ih hw
    obtain ⟨i, hi⟩ := List.getElem?_of_mem hv
    cases hk : k.keyText? with
    | none => exact ⟨_, _, .key (.here _) hi (keyText?_eq_none.1 hk)⟩
    | some text => exact ⟨_, _, he.value hi (spelled_iff.2 hk)⟩

theorem hasJsonForm_iff : v.HasJsonForm ↔ ∀ place e, ¬v.Offends place e := by
  refine ⟨fun hv place e he => he.not_hasJsonForm hv, fun hnone => ⟨?_, ?_⟩⟩
  · intro x hx
    by_contra hinf
    obtain ⟨place, e, he⟩ := hx.exists_offends ⟨_, _, .number (.here _) hinf⟩
    exact hnone place e he
  · intro entries hes entry hentry
    by_contra hk
    obtain ⟨i, hi⟩ := List.getElem?_of_mem hentry
    obtain ⟨place, e, he⟩ := hes.exists_offends ⟨_, _, .key (.here _) hi hk⟩
    exact hnone place e he

end HasJsonForm

def Reports {α : Type} (P : List Nat → NoJson → Prop) : Except NoJson α → Prop
  | .ok _ => ∀ place e, ¬P place e
  | .error e => ∃ place, P place e ∧ ∀ other d, P other d → place ≤ other

namespace Reports
variable {α β : Type} {P Q : List Nat → NoJson → Prop} {x : Except NoJson α}

theorem congr (h : Reports P x) (hPQ : ∀ place e, P place e ↔ Q place e) : Reports Q x := by
  have heq : P = Q := funext fun place => funext fun e => propext (hPQ place e)
  rwa [← heq]

theorem map {f : α → β} (h : Reports P x) : Reports P (x.map f) := by
  cases x <;> exact h

def Below (n : Nat) (segment : Segment) (P : List Nat → NoJson → Prop) (place : List Nat)
    (e : NoJson) : Prop :=
  ∃ rest d, P rest d ∧ place = n :: rest ∧ e = d.within segment

theorem below {n : Nat} {segment : Segment} (h : Reports P x) :
    Reports (Below n segment P) (x.mapError (·.within segment)) := by
  cases x with
  | ok a =>
    rintro place e ⟨rest, d, hd, -, -⟩
    exact h rest d hd
  | error e =>
    obtain ⟨place, hplace, hfirst⟩ := h
    refine ⟨n :: place, ⟨place, e, hplace, rfl, rfl⟩, ?_⟩
    rintro other d ⟨rest, d, hd, rfl, rfl⟩
    exact List.cons_le_cons n (hfirst rest d hd)

/-- Two steps, where all offences of the first one come before those of the second. -/
theorem bind {f : α → Except NoJson β} (hx : Reports P x) (hf : ∀ a, Reports Q (f a))
    (hle : ∀ place d other e, P place d → Q other e → place ≤ other) :
    Reports (fun place e => P place e ∨ Q place e) (x >>= f) := by
  cases x with
  | error e =>
    obtain ⟨place, hplace, hfirst⟩ := hx
    refine ⟨place, .inl hplace, fun other d hd => ?_⟩
    rcases hd with hd | hd
    · exact hfirst other d hd
    · exact hle place e other d hplace hd
  | ok a => exact (hf a).congr fun place e => (or_iff_right (hx place e)).symm

end Reports

def OffendFrom {α : Type} (P : Nat → α → List Nat → NoJson → Prop) (i : Nat) (xs : List α)
    (place : List Nat) (e : NoJson) : Prop :=
  ∃ j x, xs[j]? = some x ∧ P (i + j) x place e

theorem offendFrom_nil {α : Type} {P : Nat → α → List Nat → NoJson → Prop} {i : Nat} :
    ¬OffendFrom P i [] place e := by
  rintro ⟨j, x, hj, -⟩
  simp at hj

theorem offendFrom_cons {α : Type} {P : Nat → α → List Nat → NoJson → Prop} {i : Nat} {x : α}
    {xs : List α} :
    OffendFrom P i (x :: xs) place e ↔ P i x place e ∨ OffendFrom P (i + 1) xs place e := by
  constructor
  · rintro ⟨j, y, hj, hy⟩
    cases j with
    | zero =>
      cases hj
      exact .inl hy
    | succ j => exact .inr ⟨j, y, hj, by rwa [Nat.add_assoc, Nat.add_comm 1 j]⟩
  · rintro (h | ⟨j, y, hj, hy⟩)
    · exact ⟨0, x, rfl, h⟩
    · exact ⟨j + 1, y, hj, by rwa [Nat.add_assoc, Nat.add_comm 1 j] at hy⟩

def ItemOffends (i : Nat) (v : Value) : List Nat → NoJson → Prop :=
  Reports.Below i (.index i) v.Offends

def KeyOffends (i : Nat) (k : Value) (place : List Nat) (e : NoJson) : Prop :=
  ¬k.IsScalar ∧ place = [2 * i] ∧ e = ⟨[], "mapping keys must be scalars"⟩

def EntryOffends (i : Nat) (entry : Value × Value) (place : List Nat) (e : NoJson) : Prop :=
  KeyOffends i entry.1 place e ∨
    ∃ text, entry.1.keyText? = some text ∧
      Reports.Below (2 * i + 1) (.key text) entry.2.Offends place e

theorem offends_real {x : Real} (h : (real x).Offends place e) :
    e = ⟨[], "number " ++ x.text ++ " has no JSON form"⟩ := by
  cases h with
  | number h =>
    cases h with
    | here => rfl
  | key h => cases h

theorem offends_tagged {tag : String} : (tagged tag v).Offends place e ↔ v.Offends place e := by
  refine ⟨fun h => ?_, .tagged⟩
  cases h with
  | number h hx =>
    cases h with
    | tagged h => exact .number h hx
  | key h hi hk =>
    cases h with
    | tagged h => exact .key h hi hk

theorem offends_sequence {items : List Value} :
    (sequence items).Offends place e ↔ OffendFrom ItemOffends 0 items place e := by
  constructor
  · intro h
    cases h with
    | number h hx =>
      cases h with
      | item hi h =>
        exact ⟨_, _, hi, _, _, .number h hx, by rw [Nat.zero_add], by rw [Nat.zero_add]; rfl⟩
    | key h hj hk =>
      cases h with
      | item hi h =>
        exact ⟨_, _, hi, _, _, .key h hj hk, by rw [Nat.zero_add]; rfl, by rw [Nat.zero_add]; rfl⟩
  · rintro ⟨i, v, hi, rest, d, hd, rfl, rfl⟩
    rw [Nat.zero_add]
    exact hd.item hi

theorem offends_mapping {entries : List (Value × Value)} :
    (mapping entries).Offends place e ↔ OffendFrom EntryOffends 0 entries place e := by
  constructor
  · intro h
    cases h with
    | number h hx =>
      cases h with
      | value hi hk h =>
        exact ⟨_, _, hi, .inr ⟨_, spelled_iff.1 hk, _, _, .number h hx, by rw [Nat.zero_add], rfl⟩⟩
    | key h hj hbad =>
      cases h with
      | here => exact ⟨_, _, hj, .inl ⟨hbad, by rw [Nat.zero_add]; rfl, rfl⟩⟩
      | value hi hk h =>
        exact ⟨_, _, hi, .inr
          ⟨_, spelled_iff.1 hk, _, _, .key h hj hbad, by rw [Nat.zero_add]; rfl, rfl⟩⟩
  · rintro ⟨i, ⟨k, v⟩, hi, ⟨hk, rfl, rfl⟩ | ⟨text, hk, rest, d, hd, rfl, rfl⟩⟩
    · rw [Nat.zero_add]
      exact .key (.here _) hi hk
    · rw [Nat.zero_add]
      exact hd.value hi (spelled_iff.2 hk)

theorem cons_le_cons_of_lt {m n : Nat} {as bs : List Nat} (h : m < n) : m :: as ≤ n :: bs :=
  le_of_lt (List.Lex.rel h)

theorem le_of_items {i j : Nat} (hij : i < j) {v : Value} {items : List Value}
    {other : List Nat} {d : NoJson} (h : ItemOffends i v place e)
    (hother : OffendFrom ItemOffends j items other d) : place ≤ other := by
  obtain ⟨rest, _, -, rfl, -⟩ := h
  obtain ⟨n, w, -, rest', _, -, rfl, -⟩ := hother
  exact cons_le_cons_of_lt (by omega)

theorem le_of_entries {i j : Nat} (hij : i < j) {entry : Value × Value}
    {entries : List (Value × Value)} {other : List Nat} {d : NoJson}
    (h : EntryOffends i entry place e) (hother : OffendFrom EntryOffends j entries other d) :
    place ≤ other := by
  have hplace : ∃ m rest, place = m :: rest ∧ m < 2 * j := by
    obtain ⟨-, rfl, -⟩ | ⟨_, -, rest, _, -, rfl, -⟩ := h
    · exact ⟨2 * i, [], rfl, by omega⟩
    · exact ⟨2 * i + 1, rest, rfl, by omega⟩
  have hother : ∃ n rest, other = n :: rest ∧ 2 * j ≤ n := by
    obtain ⟨n, w, -, ⟨-, rfl, -⟩ | ⟨_, -, rest, _, -, rfl, -⟩⟩ := hother
    · exact ⟨2 * (j + n), [], rfl, by omega⟩
    · exact ⟨2 * (j + n) + 1, rest, rfl, by omega⟩
  obtain ⟨m, rest, rfl, hm⟩ := hplace
  obtain ⟨n, rest', rfl, hn⟩ := hother
  exact cons_le_cons_of_lt (by omega)

theorem entryOffends_of_none {i : Nat} {k : Value} (hk : k.keyText? = none) :
    EntryOffends i (k, v) place e ↔
      place = [2 * i] ∧ e = ⟨[], "mapping keys must be scalars"⟩ := by
  constructor
  · rintro (⟨-, hplace, he⟩ | ⟨text, htext, -⟩)
    · exact ⟨hplace, he⟩
    · cases hk.symm.trans htext
  · exact fun h => .inl ⟨keyText?_eq_none.1 hk, h⟩

theorem entryOffends_of_some {i : Nat} {k : Value} {text : String} (hk : k.keyText? = some text) :
    EntryOffends i (k, v) place e ↔
      Reports.Below (2 * i + 1) (.key text) v.Offends place e := by
  constructor
  · rintro (⟨hscalar, -, -⟩ | ⟨other, hother, h⟩)
    · cases hk.symm.trans (keyText?_eq_none.2 hscalar)
    · cases hk.symm.trans hother
      exact h
  · exact fun h => .inr ⟨text, hk, h⟩

theorem reports_real (x : Real) : Reports (real x).Offends (real x).toJson := by
  have hfirst {x : Real} (hx : ¬x.IsFinite) :
      Reports (α := Json) (real x).Offends
        (.error ⟨[], "number " ++ x.text ++ " has no JSON form"⟩) :=
    ⟨[], .number (.here _) hx, fun other _ _ => not_lt.1 (List.not_lt_nil other)⟩
  cases x with
  | finite b =>
    intro place e h
    cases h with
    | number h hx =>
      cases h with
      | here => exact hx ⟨b, rfl⟩
    | key h => cases h
  | infinite negative => exact hfirst (by rintro ⟨b, ⟨⟩⟩)
  | nan => exact hfirst (by rintro ⟨b, ⟨⟩⟩)

/-- A value without parts that is no number has nothing to report. -/
theorem not_offends (hv : v.IsScalar) (hreal : ∀ x, v ≠ real x) : ¬v.Offends place e := by
  intro h
  cases h with
  | number h =>
    cases h with
    | here => exact hreal _ rfl
    | _ => cases hv
  | key h => cases h <;> cases hv

mutual

theorem reports_toJson : (v : Value) → Reports v.Offends v.toJson
  | null | bool _ | integer _ | string _ => fun _ _ => not_offends trivial (by simp)
  | real x => reports_real x
  | tagged _ v => (reports_toJson v).congr fun _ _ => offends_tagged.symm
  | sequence items =>
    ((reports_items 0 items).congr fun _ _ => offends_sequence.symm).map
  | mapping entries =>
    ((reports_entries 0 [] entries).congr fun _ _ => offends_mapping.symm).map

theorem reports_items (i : Nat) :
    (items : List Value) → Reports (OffendFrom ItemOffends i items) (itemsToJson i items)
  | [] => fun _ _ => offendFrom_nil
  | v :: rest => by
    rw [itemsToJson]
    refine Reports.congr ?_ fun place e => offendFrom_cons.symm
    refine (reports_toJson v).below.bind (fun _ => ?_) ?_
    · exact (reports_items (i + 1) rest).map
    · exact fun place d other e => le_of_items i.lt_succ_self

/-- The offences do not depend on the entries that were converted before. -/
theorem reports_entries (i : Nat) (seen : Members) :
    (entries : List (Value × Value)) →
      Reports (OffendFrom EntryOffends i entries) (entriesToJson seen entries)
  | [] => fun _ _ => offendFrom_nil
  | (k, v) :: rest => by
    rw [entriesToJson]
    refine Reports.congr ?_ fun place e => offendFrom_cons.symm
    cases hk : k.keyText? with
    | none =>
      have hkey : EntryOffends i (k, v) [2 * i] ⟨[], "mapping keys must be scalars"⟩ :=
        (entryOffends_of_none hk).2 ⟨rfl, rfl⟩
      refine ⟨[2 * i], .inl hkey, ?_⟩
      rintro other d (h | h)
      · exact ((entryOffends_of_none hk).1 h).1.ge
      · exact le_of_entries i.lt_succ_self hkey h
    | some text =>
      have hentry : Reports (EntryOffends i (k, v))
          (v.toJson.mapError (·.within (.key text))) :=
        (reports_toJson v).below.congr fun place e => (entryOffends_of_some hk).symm
      refine hentry.bind (fun _ => ?_) ?_
      · exact reports_entries (i + 1) _ rest
      · exact fun place d other e => le_of_entries i.lt_succ_self

end

/-- What is reported below a node is reported there with a shorter path. -/
theorem Leads.exists_offends {rest : List Nat} (h : v.Leads place path w)
    (he : v.Offends (place ++ rest) e) :
    ∃ d, w.Offends rest d ∧ e = ⟨path ++ d.path, d.reason⟩ := by
  induction h generalizing e with
  | here => exact ⟨e, he, rfl⟩
  | tagged _ ih => exact ih (offends_tagged.1 he)
  | @item items i v w place path hi _ ih =>
    obtain ⟨j, u, hj, _, d, hd, hplace, rfl⟩ := offends_sequence.1 he
    rw [Nat.zero_add] at hplace
    obtain ⟨rfl, rfl⟩ := List.cons.inj hplace
    cases hi.symm.trans hj
    obtain ⟨d', hd', rfl⟩ := ih hd
    exact ⟨d', hd', by rw [Nat.zero_add]; rfl⟩
  | @value entries i k v w text place path hi hk _ ih =>
    obtain ⟨j, entry, hj, ⟨-, hplace, -⟩ | ⟨other, hother, _, d, hd, hplace, rfl⟩⟩ :=
      offends_mapping.1 he
    · have := (List.cons.inj hplace).1
      omega
    · obtain ⟨hij, rfl⟩ := List.cons.inj hplace
      obtain rfl : i = j := by omega
      cases hi.symm.trans hj
      cases (spelled_iff.1 hk).symm.trans hother
      obtain ⟨d', hd', rfl⟩ := ih hd
      exact ⟨d', hd', rfl⟩

theorem Offends.unique {d : NoJson} (h : v.Offends place e) (hd : v.Offends place d) : e = d := by
  cases h with
  | @number place path x h hx =>
    rw [← List.append_nil place] at hd
    obtain ⟨d', hd', rfl⟩ := h.exists_offends hd
    rw [offends_real hd', List.append_nil]
  | @key place path entries i k w h hi hk =>
    obtain ⟨d', hd', rfl⟩ := h.exists_offends hd
    obtain ⟨j, entry, hj, ⟨-, -, rfl⟩ | ⟨_, -, _, _, -, hplace, -⟩⟩ := offends_mapping.1 hd'
    · rw [List.append_nil]
    · have := (List.cons.inj hplace).1
      omega

theorem FirstOffends.unique {d : NoJson} (h : v.FirstOffends e) (hd : v.FirstOffends d) :
    e = d := by
  obtain ⟨place, hplace, hfirst⟩ := h
  obtain ⟨other, hother, hfirst'⟩ := hd
  obtain rfl := le_antisymm (hfirst other d hother) (hfirst' place e hplace)
  exact hplace.unique hother

theorem toJson_eq_error_iff : v.toJson = .error e ↔ v.FirstOffends e := by
  have h := reports_toJson v
  constructor
  · intro he
    rwa [he] at h
  · intro hfirst
    cases hv : v.toJson with
    | ok j =>
      rw [hv] at h
      obtain ⟨place, hplace, -⟩ := hfirst
      exact absurd hplace (h place e)
    | error d =>
      rw [hv] at h
      rw [FirstOffends.unique h hfirst]

theorem exists_toJson_iff : (∃ j, v.toJson = .ok j) ↔ v.HasJsonForm := by
  rw [hasJsonForm_iff]
  have h := reports_toJson v
  constructor
  · rintro ⟨j, hj⟩
    rwa [hj] at h
  · intro hnone
    cases hv : v.toJson with
    | ok j => exact ⟨j, rfl⟩
    | error e =>
      rw [hv] at h
      obtain ⟨place, hplace, -⟩ := h
      exact absurd hplace (hnone place e)

/-- A document is converted if and only if all its numbers are finite and all its keys are scalars.
Otherwise the failure names the path of the first node for which this does not hold. -/
theorem load_names_first_offender (v : Value) (source : String) :
    ((∃ j, v.load source = .ok j) ↔ v.HasJsonForm) ∧
      ∀ failure, v.load source = .error failure ↔
        ∃ e text, v.FirstOffends e ∧ e.path.Rendered text ∧
          failure = .load source (text ++ ": " ++ e.reason) := by
  constructor
  · rw [← exists_toJson_iff]
    exact exists_congr fun j => by rw [load_eq, mapError_eq_ok]
  · intro failure
    rw [load_eq, mapError_eq_error]
    constructor
    · rintro ⟨e, he, rfl⟩
      exact ⟨e, _, toJson_eq_error_iff.1 he, e.path.rendered_text, rfl⟩
    · rintro ⟨e, text, he, htext, rfl⟩
      exact ⟨e, toJson_eq_error_iff.2 he, by rw [htext.eq_text]⟩

example :
    let ratio := mapping [(string "maximum", real (.infinite false)), (sequence [], null)]
    (mapping [(string "properties", mapping [(string "ratio", ratio)])]).load "ratio.yaml" =
      .error (.load "ratio.yaml" "properties.ratio.maximum: number .inf has no JSON form") := by
  rfl

end Value
end PayloadSchema.Yaml
