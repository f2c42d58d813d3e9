import Mathlib
import PayloadSchema.Proofs.Models.Faithful

/-!
Trees of namespaces are read without loss: the names of the tree that was read are those of the
tree that was sent, in the same order.
-/
namespace PayloadSchema.NodeNamespace
open Models Validator

mutual

/-- The names in a tree as it is sent, a parent before its children. Children that are omitted or
null are none. -/
def sentNames : Json → List String
  | .object sent =>
    match sent.lookup "namespace" with
    | some (.string name) => name :: namesBelow sent
    | _ => namesBelow sent
  | _ => []

def namesBelow : Members → List String
  | [] => []
  | (key, raw) :: rest => if key = "children" then namesOfList raw else namesBelow rest

def namesOfList : Json → List String
  | .array raws => allSentNames raws
  | _ => []

def allSentNames : List Json → List String
  | [] => []
  | raw :: rest => sentNames raw ++ allSentNames rest

end

theorem namesBelow_eq (sent : Members) :
    namesBelow sent = (sent.lookup "children").elim [] namesOfList := by
  induction sent with
  | nil => rfl
  | cons member rest ih =>
    obtain ⟨key, raw⟩ := member
    rw [namesBelow, List.lookup_cons, ih]
    by_cases hkey : key = "children"
    · simp [hkey]
    · have hne : ("children" == key) = false := by simpa using Ne.symm hkey
      simp [hkey, hne]

theorem sentNames_object {sent : Members} {name : String}
    (h : Mirror.Required Mirror.text sent "namespace" name) :
    sentNames (.object sent) = name :: namesBelow sent := by
  obtain ⟨raw, hraw, rfl⟩ := h
  rw [sentNames, hraw]

mutual

/-- The induction over the tree that was read. -/
theorem Mirrors.flatten_eq : (n : NodeNamespace) → ∀ {sent : Members}, Mirrors sent n →
    n.flatten = sentNames (.object sent)
  | ⟨name, .unset⟩ => fun h => by
    cases h with
    | unset hname hlookup =>
      simp [sentNames_object hname, namesBelow_eq, hlookup, flatten, flattenChildren]
  | ⟨name, .null⟩ => fun h => by
    cases h with
    | null hname hlookup =>
      simp [sentNames_object hname, namesBelow_eq, hlookup, flatten, flattenChildren, namesOfList]
  | ⟨name, .value children⟩ => fun h => by
    cases h with
    | value hname hlookup hchildren =>
      simp [sentNames_object hname, namesBelow_eq, hlookup, flatten, flattenChildren, namesOfList,
        Mirrors.flattenAll_eq children hchildren]

theorem Mirrors.flattenAll_eq : (ns : List NodeNamespace) → ∀ {sents : List Members},
    List.Forall₂ Mirrors sents ns → flattenAll ns = allSentNames (sents.map .object)
  | [] => fun h => by
    cases h
    rfl
  | n :: ns => fun h => by
    cases h with
    | cons hn hns =>
      rw [List.map_cons, allSentNames, flattenAll, Mirrors.flatten_eq n hn,
        Mirrors.flattenAll_eq ns hns]

end

/-- The names of a tree that was read are those that were sent: none is dropped, none is repeated,
and each has its place. -/
theorem flatten_of_parseWith {depth : Nat} {raw : Json} {n : NodeNamespace}
    (h : model.parseWith (validator depth) raw = .ok n) : n.flatten = sentNames raw := by
  have hmirror : Mirror.object Mirrors raw n :=
    (Model.addsNoRules (c := nodeNamespaceSchema) (by simp [composites]) rfl
      fun _ _ => readsObject).mirrors depth raw n h
  obtain ⟨sent, rfl, hsent⟩ := hmirror
  exact Mirrors.flatten_eq n hsent

section
variable {depth room : Nat} {sent : Members} {entries : List (String × Presence Instance)}

abbrev Yields (depth room : Nat) : String × Json → String × Presence Instance → Prop :=
  MemberYields (fun s raw i => (validator depth).apply room s raw = .ok i) nodeNamespaceSchema

theorem objectRun (hname : (sent.lookup "namespace").isSome = true)
    (h : List.Forall₂ (Yields depth room) sent entries) :
    (validator depth).ObjectRun room nodeNamespaceSchema sent entries := by
  have hrequired : nodeNamespaceSchema.requiredNames = ["namespace"] := rfl
  exact ⟨by simpa [hrequired] using hname, h⟩

theorem apply_ref_object (hname : (sent.lookup "namespace").isSome = true)
    (h : List.Forall₂ (Yields depth room) sent entries) :
    (validator depth).apply (room + 1) (.ref nodeNamespace) (.object sent) =
      .ok (.object ⟨nodeNamespaceSchema, arrange nodeNamespaceSchema entries⟩) := by
  have hs : (Schema.object nodeNamespaceSchema).IsHead := trivial
  have hresolve : registry.resolve (.ref nodeNamespaceSchema.name) =
      .ok (.object nodeNamespaceSchema) := resolve_ref hs (get?_composite (by simp [composites]))
  have hschema : nodeNamespace = nodeNamespaceSchema.name := rfl
  rw [hschema, apply_ref (v := validator depth) hresolve hs]
  exact apply_container (.object (objectRun hname h).required h)

theorem yields_children {raws : List Json} {items : List Instance}
    (h : List.Forall₂ (fun raw i =>
      (validator depth).apply room (.ref nodeNamespace) raw = .ok i) raws items) :
    Yields depth (room + 1) ("children", .array raws) ("children", .value (.list items)) :=
  .declared (f := Models.optional "children" (listOf (.ref nodeNamespace))) rfl
    (.value rfl (apply_container (.list rfl h)))

theorem exists_parseWith (hname : (sent.lookup "namespace").isSome = true)
    (h : List.Forall₂ (Yields (room + 1) room) sent entries) :
    ∃ n, model.parseWith (validator (room + 1)) (.object sent) = .ok n := by
  have hmem : nodeNamespaceSchema ∈ composites := by simp [composites]
  have hschema : model.schemaName = nodeNamespaceSchema.name := rfl
  have hvalid : (validator (room + 1)).validateObject model.schemaName.text (.object sent) =
      .ok ⟨nodeNamespaceSchema, arrange nodeNamespaceSchema entries⟩ := by
    rw [validateObject, hschema, composite?_eq hmem]
    exact applyComposite_eq_ok.2 ⟨_, sent, entries, rfl, rfl, (objectRun hname h).required, h, rfl⟩
  obtain ⟨n, hn, -⟩ := Model.exists_of_validateObject hmem rfl (fun _ => readsObject) hvalid
  exact ⟨n, by rw [Model.parseWith, hvalid]; exact Outcome.mapError_eq_ok.2 hn⟩

/-- The program of the pattern is that of its source. -/
theorem program_of_nodeNamePattern {p : Pattern} (h : nodeNamePattern = some p) :
    Pattern.program "^[A-Za-z_][A-Za-z0-9_]*(\\.[A-Za-z_][A-Za-z0-9_]*)*$" = .ok p.search := by
  rw [nodeNamePattern, Pattern.compile?, Pattern.compile] at h
  split at h
  · rename_i hprogram
    cases h
    exact hprogram
  · cases h

theorem yields_name {name : String} (hname : name ∈ ["a", "b"]) :
    Yields depth room ("namespace", .string name) ("namespace", .value (.string name)) := by
  have hfound : ((Pattern.program
      "^[A-Za-z_][A-Za-z0-9_]*(\\.[A-Za-z_][A-Za-z0-9_]*)*$").toOption.map
        fun q => ["a", "b"].all q.isFoundIn) = some true := by
    cbv
  have hs : nodeName.IsHead := trivial
  have hcheck : Constraints.Satisfied
      { Constraints.none with minLength := some 1, pattern := nodeNamePattern } (.string name) := by
    intro r
    cases r with
    | minLength =>
      rintro least ⟨rfl⟩
      refine ⟨?_, by simp⟩
      rintro s ⟨rfl⟩
      rcases List.mem_pair.1 hname with rfl | rfl <;> decide
    | pattern =>
      rintro p hp s ⟨rfl⟩
      rw [program_of_nodeNamePattern hp] at hfound
      exact List.all_eq_true.1 (Option.some.inj hfound) name hname
    | _ => simp [Constraints.Rule.Within, Constraints.none]
  have hconvert : Kind.string.convert (.string name) = .value (.string name) := rfl
  have hrun : (validator depth).apply room nodeName (.string name) = .ok (.string name) :=
    (apply_head hs).trans (Kind.coerce_eq_ok.2 ⟨hconvert, (Constraints.check_eq_ok rfl).2 hcheck⟩)
  exact .declared (f := Models.required "namespace" nodeName) rfl (.value rfl hrun)

end

def treePayload : Json :=
  .object
    [("children", .array
        [.object
            [("namespace", .string "b"),
              ("children", .array [.object [("owner", .bool true), ("namespace", .string "a")]])],
          .object [("namespace", .string "b"), ("children", .null)]]),
      ("namespace", .string "a")]

/-- Names that occur twice, and children that are listed, null and omitted. -/
theorem treePayload_flatten :
    ∃ n, model.parseWith (validator 5) treePayload = .ok n ∧ n.flatten = ["a", "b", "a", "b"] := by
  have hname (room : Nat) (s : String) (hs : s ∈ ["a", "b"]) :
      Yields 5 room ("namespace", .string s) ("namespace", .value (.string s)) := yields_name hs
  have howner : Yields 5 0 ("owner", .bool true) ("owner", .value (.any (.bool true))) :=
    .additional rfl (.anyValue rfl)
  have hnull : Yields 5 2 ("children", .null) ("children", .null) :=
    .declared (f := Models.optional "children" (listOf (.ref nodeNamespace))) rfl (.null rfl)
  have hleaf := apply_ref_object rfl (.cons howner (.cons (hname 0 "a" (by simp)) .nil))
  have hfirst := apply_ref_object rfl
    (.cons (hname 2 "b" (by simp)) (.cons (yields_children (.cons hleaf .nil)) .nil))
  have hsecond := apply_ref_object rfl (.cons (hname 2 "b" (by simp)) (.cons hnull .nil))
  obtain ⟨n, hn⟩ := exists_parseWith rfl
    (.cons (yields_children (.cons hfirst (.cons hsecond .nil)))
      (.cons (hname 4 "a" (by simp)) .nil))
  exact ⟨n, hn, flatten_of_parseWith hn⟩

end PayloadSchema.NodeNamespace
