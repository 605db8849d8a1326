import JsonSchema.Engine
import JsonSchema.Proofs.Following
import Mathlib.Data.List.Chain

/-!
Where cycles are cut. A build searches the graph depth first: every node on the way leads to the node that is visited,
so a slot is made only where a cycle closes. And when a node is finished, each node that it leads to has been finished
before it or owns a slot; so no cycle gets past the owners of slots.
-/
namespace JsonSchema

namespace SchemaGraph

variable {graph : SchemaGraph} {id : SchemaId} {ids : List SchemaId}

/-- Nodes each of which leads to the next one, and the last one to the first. -/
structure Cycle (graph : SchemaGraph) (ids : List SchemaId) : Prop where
  nonempty : ids ≠ []
  leads : List.IsChain graph.Follows ids
  back : graph.Follows (ids.getLast nonempty) (ids.head nonempty)

theorem exists_cycle_of_transGen (h : Relation.TransGen graph.Follows id id) : ∃ ids, graph.Cycle ids ∧ id ∈ ids := by
  obtain ⟨last, hreach, hback⟩ := Relation.TransGen.tail'_iff.mp h
  obtain ⟨rest, hleads, hlast⟩ := List.exists_isChain_cons_of_relationReflTransGen hreach
  have hcycle : graph.Cycle (id :: rest) := ⟨List.cons_ne_nil _ _, hleads, hlast ▸ hback⟩
  exact ⟨id :: rest, hcycle, List.mem_cons_self⟩

theorem Cycle.transGen_head {kind : SchemaId → Prop} (h : graph.Cycle ids) (hall : ∀ id ∈ ids, kind id) :
    Relation.TransGen (fun id other => graph.Follows id other ∧ kind other) (ids.head h.nonempty)
      (ids.head h.nonempty) := by
  have hleads : List.IsChain (fun id other => graph.Follows id other ∧ kind other) ids :=
    h.leads.imp_of_mem_imp fun _ other _ hmem hfollows => ⟨hfollows, hall other hmem⟩
  have hback : graph.Follows (ids.getLast h.nonempty) (ids.head h.nonempty) ∧ kind (ids.head h.nonempty) :=
    ⟨h.back, hall _ (List.head_mem _)⟩
  exact Relation.TransGen.tail' (List.relationReflTransGen_of_exists_isChain ids hleads h.nonempty) hback

theorem Cycle.reachable_head (h : graph.Cycle ids) (hmem : id ∈ ids) :
    graph.Reachable id (ids.head h.nonempty) := by
  have hback := h.back
  obtain ⟨before, after, hsplit⟩ := List.append_of_mem hmem
  have hrest : List.IsChain graph.Follows (id :: after) := (hsplit ▸ h.leads).right_of_append
  have hlast : ids.getLast h.nonempty = (id :: after).getLast (List.cons_ne_nil _ _) := by
    simp only [hsplit, List.getLast_append_of_ne_nil _ (List.cons_ne_nil id after)]
  rw [hlast] at hback
  exact (List.relationReflTransGen_of_exists_isChain _ hrest (List.cons_ne_nil _ _)).tail hback

/-- Nodes in the order in which they were finished, the last one in front: each leads only to nodes that were finished
before it, or to owners of slots. -/
def InOrder (graph : SchemaGraph) (owners : List SchemaId) : List SchemaId → Prop
  | [] => True
  | id :: earlier => (∀ other, graph.Follows id other → other ∈ earlier ∨ other ∈ owners) ∧
    InOrder graph owners earlier

variable {owners more : List SchemaId}

theorem InOrder.mono (hsub : owners ⊆ more) (h : graph.InOrder owners ids) : graph.InOrder more ids := by
  induction ids with
  | nil => trivial
  | cons id earlier ih =>
    obtain ⟨hid, hearlier⟩ := h
    exact ⟨fun other hfollows => (hid other hfollows).imp_right (@hsub other), ih hearlier⟩

theorem InOrder.mem_of_follows {other : SchemaId} (h : graph.InOrder owners ids) (hmem : id ∈ ids)
    (hfollows : graph.Follows id other) (howner : other ∉ owners) : other ∈ ids := by
  induction ids with
  | nil => cases hmem
  | cons last earlier ih =>
    obtain ⟨hlast, hearlier⟩ := h
    refine List.mem_cons_of_mem _ ?_
    rcases List.mem_cons.mp hmem with rfl | hmem
    · exact (hlast other hfollows).resolve_right howner
    · exact ih hearlier hmem

/-- Past the owners of slots no node leads back to itself. -/
theorem InOrder.acyclic (h : graph.InOrder owners ids) (hmem : id ∈ ids) :
    ¬Relation.TransGen (fun id other => graph.Follows id other ∧ other ∉ owners) id id := by
  induction ids with
  | nil => cases hmem
  | cons last earlier ih =>
    obtain ⟨hlast, hearlier⟩ := h
    by_cases hold : id ∈ earlier
    · exact ih hearlier hold
    · -- The node is the last one; all that it leads to is earlier, and it is not.
      obtain rfl : id = last := (List.mem_cons.mp hmem).resolve_right hold
      intro hcycle
      obtain ⟨next, ⟨hfollows, howner⟩, hreach⟩ := Relation.TransGen.head'_iff.mp hcycle
      have hnext : next ∈ earlier := (hlast next hfollows).resolve_right howner
      have hstays : ∀ other,
          Relation.ReflTransGen (fun id other => graph.Follows id other ∧ other ∉ owners) next other →
            other ∈ earlier := by
        intro other hother
        induction hother with
        | refl => exact hnext
        | tail _ hstep hbefore => exact hearlier.mem_of_follows hbefore hstep.1 hstep.2
      exact hold (hstays id hreach)

end SchemaGraph

namespace Compiler

open SchemaGraph Progress

variable {compiler : Compiler} {graph : SchemaGraph} {rounds : Nat} {path : List SchemaId} {root id other : SchemaId}
  {progress next before : Progress} {predicate : Predicate} {node : SchemaNode}

def Progress.owners (progress : Progress) : List SchemaId := progress.slots.map Prod.fst

def slotOwners (compiler : Compiler) (schema : Schema) : List SchemaId :=
  match compiler.run schema.graph schema.root with
  | .ok (_, progress) => progress.owners
  | .error _ => []

def Progress.ids (progress : Progress) : List SchemaId := progress.finished.map Prod.fst

theorem mem_ids_iff_finished : id ∈ progress.ids ↔ progress.Finished id := by
  rw [Progress.ids, Finished, List.lookup_isSome_iff]
  simp only [List.mem_map, beq_iff_eq, @eq_comm _ id]

@[simp] theorem owners_finish : (finish id predicate progress).owners = progress.owners := by
  simp only [Progress.owners, finish, List.map_map]
  rfl

@[simp] theorem ids_finish : (finish id predicate progress).ids = id :: progress.ids := rfl

theorem owners_slotFor (h : slotFor id progress = .ok (predicate, next)) :
    next.ids = progress.ids ∧ progress.owners ⊆ next.owners ∧
      ∀ owner ∈ next.owners, owner ∈ progress.owners ∨ owner = id := by
  rw [slotFor_eq] at h
  split at h
  · cases h
    exact ⟨rfl, List.Subset.refl _, fun _ hmem => .inl hmem⟩
  · cases h
    have howners : ({ progress with slots := progress.slots ++ [(id, none)] } : Progress).owners =
        progress.owners ++ [id] := by
      simp [Progress.owners]
    refine ⟨rfl, ?_, ?_⟩
    · rw [howners]
      exact List.subset_append_left _ _
    · rw [howners]
      intro owner hmem
      simpa using hmem

/-- The node that is visited: the root leads to it, and so do all nodes on the way. -/
structure Trail (graph : SchemaGraph) (root : SchemaId) (path : List SchemaId) (id : SchemaId) : Prop where
  reached : graph.Reachable root id
  passed : ∀ other ∈ path, Relation.TransGen graph.Follows other id

theorem Trail.start (graph : SchemaGraph) (root : SchemaId) : Trail graph root [] root where
  reached := .refl
  passed := by simp

theorem Trail.step (h : Trail graph root path id) (hfollows : graph.Follows id other) :
    Trail graph root (id :: path) other where
  reached := h.reached.tail hfollows
  passed := by
    intro first hmem
    rcases List.mem_cons.mp hmem with rfl | hmem
    · exact .single hfollows
    · exact (h.passed first hmem).tail hfollows

/-- Slots are made on cycles, and nodes finished in an order in which slots cut all cycles. -/
structure Progress.Cut (graph : SchemaGraph) (root : SchemaId) (progress : Progress) : Prop where
  closing : ∀ owner ∈ progress.owners, graph.Reachable root owner ∧ Relation.TransGen graph.Follows owner owner
  order : graph.InOrder progress.owners progress.ids

theorem cut_empty (graph : SchemaGraph) (root : SchemaId) : Progress.Cut graph root {} where
  closing := by simp [Progress.owners]
  order := trivial

theorem Progress.Cut.slotted (h : progress.Cut graph root) (htrail : Trail graph root path id) (honWay : id ∈ path)
    (hslot : slotFor id progress = .ok (predicate, next)) : next.Cut graph root := by
  obtain ⟨hids, hmore, hnew⟩ := owners_slotFor hslot
  refine ⟨?_, ?_⟩
  · intro owner hmem
    rcases hnew owner hmem with hold | rfl
    · exact h.closing owner hold
    · exact ⟨htrail.reached, htrail.passed owner honWay⟩
  · rw [hids]
    exact h.order.mono hmore

theorem mem_of_stands (h : progress.Stands id predicate) : id ∈ progress.ids ∨ id ∈ progress.owners := by
  rcases h with hfin | ⟨index, content, _, hslot⟩
  · have hfinished : progress.Finished id := Option.isSome_iff_exists.mpr ⟨predicate, hfin⟩
    exact .inl (mem_ids_iff_finished.mpr hfinished)
  · have hmem : (id, content) ∈ progress.slots := List.mem_of_getElem? hslot
    exact .inr (List.mem_map.mpr ⟨(id, content), hmem, rfl⟩)

/-- A node is finished after the nodes that it leads to, but for owners of slots. -/
theorem Progress.Cut.leave (hbuiltin : compiler.constraints = Constraint.builtin) (h : before.Cut graph root)
    (hnode : graph.get? id = some node) (hmade : (compiler.compileNode id node).Yields before.Stands predicate) :
    (finish id predicate before).Cut graph root := by
  refine ⟨by simpa using h.closing, ?_⟩
  rw [owners_finish, ids_finish]
  refine ⟨fun other hfollows => ?_, h.order⟩
  obtain ⟨answer, hstands⟩ := exists_answer_of_follows hbuiltin hnode hmade hfollows
  exact mem_of_stands hstands

theorem visit_cut (hbuiltin : compiler.constraints = Constraint.builtin) (h : (offPath graph path).length < rounds)
    (hsound : Sound compiler graph path progress) (htrail : Trail graph root path id) (hcut : progress.Cut graph root)
    (hvisit : compiler.visit graph rounds path h id progress = .ok (predicate, next)) : next.Cut graph root := by
  induction rounds generalizing path id progress predicate next with
  | zero => exact absurd h (Nat.not_lt_zero _)
  | succ rounds ih =>
    rcases visit_cases hvisit with ⟨_, rfl⟩ | ⟨_, honWay, hslot⟩ |
      ⟨hfin, _, node, before, less, hless, hrounds, hnode, hrun, rfl⟩
    · exact hcut
    · exact hcut.slotted htrail honWay hslot
    · obtain rfl : less = rounds := by omega
      have hreach := Inquiry.reaches_of_run_eq_ok hrun
      have hmade : (compiler.compileNode id node).Yields before.Stands predicate :=
        hreach.yields (fun now => now.Stands) (fun _ _ _ _ hstate hresp => visit_sound hless hstate hresp)
          (fun _ _ _ _ hle hs => hs.mono hle) (hsound.enter hfin)
      have hstep : ∀ question state answer after, graph.Follows id question →
          (Sound compiler graph (id :: path) state ∧ state.Cut graph root) →
          Inquiry.Responds (compiler.visit graph less (id :: path) hless) question state answer after →
          Sound compiler graph (id :: path) after ∧ after.Cut graph root := by
        rintro question state answer after hfollows ⟨hstate, hopen⟩ hresp
        exact ⟨(visit_sound hless hstate hresp).1.1, ih hless hstate (htrail.step hfollows) hopen hresp⟩
      obtain ⟨_, hbefore⟩ :=
        hreach.keepsAsked (asksOnly_compileNode hbuiltin hnode) hstep ⟨hsound.enter hfin, hcut⟩
      exact hbefore.leave hbuiltin hnode hmade

variable {schema : Schema} {validator : Validator}

/-- Slots cut cycles. Each is owned by a node of its own, which lies on a cycle that the root leads to; and there is an
owner on every such cycle. So a validator has no slots exactly if its schema has no cycles. -/
theorem slotOwners_cut_cycles (hbuiltin : compiler.constraints = Constraint.builtin)
    (hcompile : compiler.compile schema = .ok validator) :
    (compiler.slotOwners schema).length = validator.slotCount ∧
    (compiler.slotOwners schema).Nodup ∧
    (∀ owner ∈ compiler.slotOwners schema, schema.graph.Reachable schema.root owner ∧
      ∃ ids, schema.graph.Cycle ids ∧ owner ∈ ids) ∧
    (∀ ids, schema.graph.Cycle ids → (∃ id ∈ ids, schema.graph.Reachable schema.root id) →
      ∃ owner ∈ compiler.slotOwners schema, owner ∈ ids) ∧
    (validator.slotCount = 0 ↔
      ¬∃ ids, schema.graph.Cycle ids ∧ ∃ id ∈ ids, schema.graph.Reachable schema.root id) := by
  obtain ⟨progress, hrun, _, hall⟩ := compile_cases hcompile
  have howners : compiler.slotOwners schema = progress.owners := by rw [slotOwners, hrun]
  have hcount : (compiler.slotOwners schema).length = validator.slotCount := by
    rw [howners, Progress.owners, List.length_map, Validator.slotCount, hall.length_eq]
  obtain ⟨hsound, hroot⟩ := run_sound hrun
  have hcut : progress.Cut schema.graph schema.root :=
    visit_cut hbuiltin _ (sound_empty compiler schema.graph) (.start _ _) (cut_empty _ _) hrun
  have hclosing : ∀ owner ∈ compiler.slotOwners schema, schema.graph.Reachable schema.root owner ∧
      ∃ ids, schema.graph.Cycle ids ∧ owner ∈ ids := by
    intro owner hmem
    obtain ⟨hreach, hcycle⟩ := hcut.closing owner (howners ▸ hmem)
    exact ⟨hreach, exists_cycle_of_transGen hcycle⟩
  have hpassed : ∀ ids, schema.graph.Cycle ids → (∃ id ∈ ids, schema.graph.Reachable schema.root id) →
      ∃ owner ∈ compiler.slotOwners schema, owner ∈ ids := by
    rintro ids hcycle ⟨id, hmem, hreach⟩
    by_contra hnone
    have hfree : ∀ id ∈ ids, id ∉ progress.owners :=
      fun id hid howner => hnone ⟨id, howners ▸ howner, hid⟩
    have hfirst : schema.graph.Reachable schema.root (ids.head hcycle.nonempty) :=
      hreach.trans (hcycle.reachable_head hmem)
    have hfinished := mem_ids_iff_finished.mpr (finished_of_reachable hbuiltin hsound hroot hfirst)
    exact hcut.order.acyclic hfinished (hcycle.transGen_head hfree)
  refine ⟨hcount, howners ▸ hsound.owners, hclosing, hpassed, ?_⟩
  rw [← hcount, List.length_eq_zero_iff]
  constructor
  · rintro hempty ⟨ids, hcycle, hreach⟩
    obtain ⟨owner, hmem, _⟩ := hpassed ids hcycle hreach
    rw [hempty] at hmem
    cases hmem
  · intro hnone
    refine List.eq_nil_iff_forall_not_mem.mpr fun owner hmem => ?_
    obtain ⟨hreach, ids, hcycle, hid⟩ := hclosing owner hmem
    exact hnone ⟨ids, hcycle, owner, hid, hreach⟩

/-- Boxes in rows in boxes, with labels. The branch of a label has no condition beside it, so it leads nowhere. -/
def labelledBoxes : Schema where
  graph := ⟨#[{ properties := [("row", ⟨1⟩), ("label", ⟨3⟩)] }, { items := some (.every ⟨2⟩) },
    { anyOf := some [⟨3⟩, ⟨1⟩] }, { types := some (.only .string), consequence := some ⟨0⟩ }]⟩
  root := ⟨0⟩

theorem slotOwners_cut_cycles_labelledBoxes :
    ∃ validator, (ofOptions {}).compile labelledBoxes = .ok validator ∧ validator.slotCount = 1 ∧
      ∀ ids, labelledBoxes.graph.Cycle ids → (∃ id ∈ ids, labelledBoxes.graph.Reachable ⟨0⟩ id) → ⟨1⟩ ∈ ids := by
  obtain ⟨validator, hcompile, hcount⟩ :
      ∃ validator, (ofOptions {}).compile labelledBoxes = .ok validator ∧ validator.slotCount = 1 := ⟨_, rfl, rfl⟩
  have howners : (ofOptions {}).slotOwners labelledBoxes = [⟨1⟩] := by decide
  obtain ⟨_, _, _, hpassed, _⟩ := slotOwners_cut_cycles rfl hcompile
  refine ⟨validator, hcompile, hcount, fun ids hcycle hreach => ?_⟩
  obtain ⟨owner, hmem, hid⟩ := hpassed ids hcycle hreach
  rw [howners, List.mem_singleton] at hmem
  exact hmem ▸ hid

end Compiler

end JsonSchema
