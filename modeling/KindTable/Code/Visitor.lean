import KindTable.Artifact.Rows
import KindTable.Code.Comment
import KindTable.Code.File
import KindTable.Code.Opcodes
import KindTable.Code.Pieces
import KindTable.Outcome

namespace KindTable

def fallbackMethod : String := "visit_default"

def fallbackOwner : String := "NodeVisitor::" ++ fallbackMethod

section

variable [Toolkit]

def methodName (node : String) : String := "visit_" ++ Toolkit.snakeCase node

def assignMethods (owners : Std.HashMap String String) :
    List String → Except EmissionError (List (String × String))
  | [] => .ok []
  | node :: rest =>
    match owners[methodName node]? with
    | some first => .error (.methodCollision (methodName node) first node)
    | none =>
      if Toolkit.isWord (methodName node) then
        (assignMethods (owners.insert (methodName node) node) rest).map ((node, methodName node) :: ·)
      else .error (.malformedWord (methodName node))

theorem assignMethods_eq_ok_iff {owners : Std.HashMap String String} {nodes : List String}
    {methods : List (String × String)} : assignMethods owners nodes = .ok methods ↔
      (nodes.map methodName).Nodup ∧ (∀ node ∈ nodes, methodName node ∉ owners) ∧
        (∀ node ∈ nodes, Toolkit.isWord (methodName node) = true) ∧
        nodes.map (fun node => (node, methodName node)) = methods := by
  induction nodes generalizing owners methods with
  | nil => simp [assignMethods]
  | cons node rest ih =>
    unfold assignMethods
    split
    · rename_i first hfirst
      have howned : methodName node ∈ owners := Std.HashMap.mem_iff_isSome_getElem?.mpr (by rw [hfirst]; rfl)
      simp [howned]
    · rename_i hfree
      have hnew : methodName node ∉ owners := by
        rw [Std.HashMap.mem_iff_isSome_getElem?, hfree]
        simp
      split
      · rename_i hword
        simp only [map_eq_ok_iff, ih, List.map_cons, List.nodup_cons, List.forall_mem_cons, Std.HashMap.mem_insert,
          beq_iff_eq, not_or, List.mem_map, not_exists, not_and]
        constructor
        · rintro ⟨later, ⟨hnodup, hfresh, hwords, rfl⟩, rfl⟩
          exact ⟨⟨fun other hother h => (hfresh other hother).1 h.symm, hnodup⟩,
            ⟨hnew, fun other hother => (hfresh other hother).2⟩, ⟨hword, hwords⟩, rfl⟩
        · rintro ⟨⟨hdistinct, hnodup⟩, ⟨-, howners⟩, ⟨-, hwords⟩, rfl⟩
          have hfresh : ∀ other ∈ rest, ¬methodName node = methodName other ∧ methodName other ∉ owners :=
            fun other hother => ⟨fun h => hdistinct other hother h.symm, howners other hother⟩
          exact ⟨_, ⟨hnodup, hfresh, hwords, rfl⟩, rfl⟩
      · rename_i hword
        simp [hword]

def Selection.methods (s : Selection) : Except EmissionError (List (String × String)) :=
  assignMethods (Std.HashMap.insert ∅ fallbackMethod fallbackOwner) (s.active.map (·.name))

def Selection.visitorTable (s : Selection) (policy : SlotPolicy) :
    Except EmissionError (Artifact (DispatchRow String)) :=
  s.methods.map fun methods => RowConsumer.artifact (dispatchConsumer (.ofList methods none) policy) s

theorem Selection.visitorTable_eq_ok_iff {s : Selection} {policy : SlotPolicy}
    {table : Artifact (DispatchRow String)} : s.visitorTable policy = .ok table ↔
      ((s.active.map (·.name)).map methodName).Nodup ∧ (∀ a ∈ s.active, methodName a.name ≠ fallbackMethod) ∧
        (∀ a ∈ s.active, Toolkit.isWord (methodName a.name) = true) ∧
        RowConsumer.artifact
          (dispatchConsumer (.ofList (s.active.map fun a => (a.name, methodName a.name)) none) policy) s = table := by
  have hpairs : (s.active.map (·.name)).map (fun node => (node, methodName node)) =
      s.active.map fun a => (a.name, methodName a.name) := by
    rw [List.map_map]
    rfl
  have howners : (∀ a ∈ s.active,
      methodName a.name ∉ Std.HashMap.insert (∅ : Std.HashMap String String) fallbackMethod fallbackOwner) ↔
        ∀ a ∈ s.active, methodName a.name ≠ fallbackMethod := by
    simp only [Std.HashMap.mem_insert, beq_iff_eq, Std.HashMap.not_mem_empty, or_false]
    constructor
    · exact fun h a ha heq => h a ha heq.symm
    · exact fun h a ha heq => h a ha heq.symm
  simp only [visitorTable, map_eq_ok_iff, methods, assignMethods_eq_ok_iff, hpairs, List.forall_mem_map, howners]
  constructor
  · rintro ⟨methods, ⟨hnodup, hfree, hwords, rfl⟩, htable⟩
    exact ⟨hnodup, hfree, hwords, htable⟩
  · rintro ⟨hnodup, hfree, hwords, htable⟩
    exact ⟨_, ⟨hnodup, hfree, hwords, rfl⟩, htable⟩

theorem Selection.visitorTable_eq_ok {s : Selection} {policy : SlotPolicy} {table : Artifact (DispatchRow String)}
    (h : s.visitorTable policy = .ok table) :
    table = RowConsumer.artifact
      (dispatchConsumer (.ofList (s.active.map fun a => (a.name, methodName a.name)) none) policy) s :=
  (visitorTable_eq_ok_iff.mp h).2.2.2.symm

def Slot.method? (slot : Slot) : Option String := slot.active?.map fun a => methodName a.name

theorem Slot.method?_eq (slot : Slot) :
    slot.method? = if slot.isReserved then none else some (methodName slot.name) := by
  obtain ⟨index, occupant⟩ := slot
  cases occupant <;> rfl

theorem Selection.forSlot_methods {s : Selection} {policy : SlotPolicy} {slot : Slot} (h : slot ∈ s.slots policy) :
    (Handlers.ofList (s.active.map fun a => (a.name, methodName a.name)) none).forSlot slot = slot.method? := by
  have hpairs : (s.active.map fun a => (a.name, methodName a.name)).reverse =
      (s.active.map (·.name)).reverse.map fun n => (n, methodName n) := by
    rw [← List.map_reverse, ← List.map_reverse, List.map_map]
    rfl
  unfold Handlers.forSlot Slot.method? Slot.isReserved
  cases hactive : slot.active? with
  | none => rfl
  | some a =>
    obtain ⟨ha, hname⟩ := active_of_slot h hactive
    have hmem : a.name ∈ (s.active.map (·.name)).reverse := List.mem_reverse.mpr (List.mem_map_of_mem ha)
    have hlookup : ((s.active.map (·.name)).reverse.map fun n => (n, methodName n)).lookup a.name =
        some (methodName a.name) := lookup_map_of_mem (fun n => n) (fun _ h => h) hmem
    rw [← hname, Handlers.byName_ofList, hpairs, hlookup]
    rfl

theorem Selection.rows_of_visitorTable {s : Selection} {policy : SlotPolicy} {table : Artifact (DispatchRow String)}
    (h : s.visitorTable policy = .ok table) :
    table.rows = (s.slots policy).map fun slot => ⟨slot.index, slot.name, slot.method?⟩ := by
  rw [visitorTable_eq_ok h, RowConsumer.rows_artifact]
  refine List.map_congr_left fun slot hslot => ?_
  rw [← forSlot_methods hslot]
  rfl

theorem Selection.handler_of_visitorTable {s : Selection} {policy : SlotPolicy}
    {table : Artifact (DispatchRow String)} {i : Nat} {slot : Slot} (h : s.visitorTable policy = .ok table)
    (hslot : (s.slots policy)[i]? = some slot) :
    table.rows[i]? =
      some ⟨slot.index, slot.name, if slot.isReserved then none else some (methodName slot.name)⟩ := by
  rw [rows_of_visitorTable h, List.getElem?_map, hslot, Option.map_some, Slot.method?_eq]

end

structure VisitMethod where
  name : String
  variant : String
  deriving DecidableEq, Repr

structure VisitArm where
  variant : String
  method : Option String
  deriving DecidableEq, Repr

structure VisitorCode where
  methods : List VisitMethod
  arms : List VisitArm
  deriving DecidableEq, Repr

namespace VisitorCode

def ofRows (rows : List (DispatchRow String)) : VisitorCode where
  methods := rows.filterMap fun row => row.handler.map (⟨·, row.name⟩)
  arms := rows.map fun row => ⟨row.name, row.handler⟩

def methodLines (m : VisitMethod) : List (List Doc) :=
  [[.text (docComment (" Visit a `" ++ m.variant ++ "` node."))],
    block
      [.text "fn ", .name ⟨.item, m.name⟩, .text "(", .seam,
        .group 0 [.fold .nothing, .text "&mut self", .fold beforeCloser], .text ")",
        .group (-4) [.text " -> Self::Output"], .text " "]
      [[.group 0
        [.group 4
          [.text ("self." ++ fallbackMethod),
            .group (-4) [.text "(", bracketed (OpcodeCode.opcodePath m.variant), .text ")"]]]]]]

def visitCall (method : Doc) (arguments : List Doc) : Doc :=
  .group 4 [.text "visitor", .fold .nothing, .text ".", method,
    .group 0 ([.text "("] ++ arguments ++ [.text ")"])]

def armItem (a : VisitArm) : List Doc :=
  matchArm (OpcodeCode.opcodePath a.variant)
    [match a.method with
      | some method => visitCall (.name ⟨.item, method⟩) []
      | none => visitCall (.text fallbackMethod) [bracketed [.text "opcode"]]]

def interface (c : VisitorCode) : List Doc :=
  block [.text "pub trait NodeVisitor "]
    ([[.text "type Output;"],
      [.text ("fn " ++ fallbackMethod ++ "(&mut self, opcode: Opcode) -> Self::Output;")]] ++
      c.methods.flatMap methodLines)

def dispatch (c : VisitorCode) : List Doc :=
  block
    [.text "pub fn dispatch<V: NodeVisitor + ?Sized>(visitor: &mut V, opcode: Opcode) -> V::Output "]
    [block [.text "match opcode "] (c.arms.map armItem)]

def file (c : VisitorCode) : CodeFile where
  output := .visitor
  body := stackLines
    [[.text "use super::opcodes::Opcode;"],
      [.text (docComment
        " One method per node kind. Unimplemented methods fall back to `visit_default`.")],
      c.interface,
      [.text (docComment " Call the `visitor` method that handles `opcode`.")],
      c.dispatch]

theorem mentions_armItem (a : VisitArm) :
    mentionsOf (armItem a) = ⟨.path, a.variant⟩ :: a.method.toList.map (⟨.item, ·⟩) := by
  obtain ⟨variant, method⟩ := a
  cases method <;> rfl

theorem mentions_file (c : VisitorCode) : c.file.mentions =
    c.methods.flatMap (fun m => [⟨.item, m.name⟩, ⟨.path, m.variant⟩]) ++
      c.arms.flatMap fun a => ⟨.path, a.variant⟩ :: a.method.toList.map (⟨.item, ·⟩) := by
  have hmethods : c.methods.flatMap (fun m => (methodLines m).flatMap mentionsOf) =
      c.methods.flatMap fun m => [⟨.item, m.name⟩, ⟨.path, m.variant⟩] := rfl
  rw [← List.flatMap_assoc] at hmethods
  simp [CodeFile.mentions, file, interface, dispatch, mentionsOf, Doc.mentions, hmethods, List.flatMap_map,
    mentions_armItem]

end VisitorCode

end KindTable
