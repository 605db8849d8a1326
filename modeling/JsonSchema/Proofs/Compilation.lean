import JsonSchema.Compiler
import JsonSchema.Interpretation
import JsonSchema.Proofs.Check

/-!
The depth-first build of predicates. While it runs, each finished node has its predicate and each slot belongs either
to a node on the way, and is empty, or to a finished node, and holds that node's predicate. Every visit keeps this and
gives a predicate that stands for the node visited.
-/
namespace JsonSchema.Compiler

variable {compiler : Compiler} {graph : SchemaGraph} {rounds : Nat} {path : List SchemaId} {id : SchemaId}
  {progress next : Progress} {predicate : Predicate}

theorem slotFor_eq (id : SchemaId) (progress : Progress) :
    slotFor id progress =
      match progress.slots.findIdx? (·.1 == id) with
      | some index => .ok (.slot index, progress)
      | none => .ok (.slot progress.slots.length, { progress with slots := progress.slots ++ [(id, none)] }) := by
  simp only [slotFor, bind, StateT.bind, get, getThe, MonadStateOf.get, StateT.get, pure, Except.pure, Except.bind]
  cases progress.slots.findIdx? (·.1 == id) with
  | none => rfl
  | some index => rfl

theorem visit_eq (h : (offPath graph path).length < rounds + 1) :
    compiler.visit graph (rounds + 1) path h id progress =
      match progress.finished.lookup id with
      | some predicate => .ok (predicate, progress)
      | none =>
        if onWay : id ∈ path then slotFor id progress
        else if found : (graph.get? id).isSome then
          ((compiler.compileNode id ((graph.get? id).get found)).run
            (compiler.visit graph rounds (id :: path) (offPath_cons_lt found onWay h)) progress).map
            fun (predicate, progress) => (predicate, finish id predicate progress)
        else .error (.missingNode id) := by
  rw [visit]
  simp only [bind, StateT.bind, get, getThe, MonadStateOf.get, StateT.get, pure, Except.pure, Except.bind]
  cases progress.finished.lookup id with
  | some predicate => rfl
  | none =>
    by_cases onWay : id ∈ path
    · simp only [dif_pos onWay]
    · simp only [dif_neg onWay]
      by_cases found : (graph.get? id).isSome
      · simp only [dif_pos found, StateT.bind, bind, Except.bind]
        split
        · rename_i error failed
          rw [failed]
          rfl
        · rename_i result finished
          rw [finished]
          rfl
      · simp only [dif_neg found]
        rfl

/-- A visit comes upon a finished node, a node on the way, no node at all, or one that is to be compiled. -/
theorem visit_outcome (h : (offPath graph path).length < rounds) :
    (∃ predicate, progress.finished.lookup id = some predicate ∧
      compiler.visit graph rounds path h id progress = .ok (predicate, progress)) ∨
    progress.finished.lookup id = none ∧
      (id ∈ path ∧ compiler.visit graph rounds path h id progress = slotFor id progress ∨
        id ∉ path ∧
          (graph.get? id = none ∧ compiler.visit graph rounds path h id progress = .error (.missingNode id) ∨
            ∃ node less, ∃ hless : (offPath graph (id :: path)).length < less,
              less + 1 = rounds ∧ graph.get? id = some node ∧
              compiler.visit graph rounds path h id progress =
                ((compiler.compileNode id node).run (compiler.visit graph less (id :: path) hless) progress).map
                  fun (predicate, progress) => (predicate, finish id predicate progress))) := by
  cases rounds with
  | zero => exact absurd h (Nat.not_lt_zero _)
  | succ rounds =>
    rw [visit_eq h]
    cases progress.finished.lookup id with
    | some predicate => exact .inl ⟨predicate, rfl, rfl⟩
    | none =>
      refine .inr ⟨rfl, ?_⟩
      by_cases onWay : id ∈ path
      · exact .inl ⟨onWay, by simp only [dif_pos onWay]⟩
      · refine .inr ⟨onWay, ?_⟩
        by_cases found : (graph.get? id).isSome
        · refine .inr ⟨_, rounds, offPath_cons_lt found onWay h, rfl, (Option.some_get found).symm, ?_⟩
          simp only [dif_neg onWay, dif_pos found]
        · exact .inl ⟨by simpa using found, by simp only [dif_neg onWay, dif_neg found]⟩

theorem visit_cases {h : (offPath graph path).length < rounds}
    (hvisit : compiler.visit graph rounds path h id progress = .ok (predicate, next)) :
    (progress.finished.lookup id = some predicate ∧ next = progress) ∨
    (progress.finished.lookup id = none ∧ id ∈ path ∧ slotFor id progress = .ok (predicate, next)) ∨
    (progress.finished.lookup id = none ∧ id ∉ path ∧
      ∃ node before less, ∃ hless : (offPath graph (id :: path)).length < less,
        less + 1 = rounds ∧ graph.get? id = some node ∧
        (compiler.compileNode id node).run (compiler.visit graph less (id :: path) hless) progress =
          .ok (predicate, before) ∧
        next = finish id predicate before) := by
  obtain ⟨made, hfin, heq⟩ | ⟨hfin, ⟨onWay, heq⟩ | ⟨onWay, ⟨_, heq⟩ | ⟨node, less, hless, hrounds, hnode, heq⟩⟩⟩ :=
    visit_outcome h
  all_goals rw [heq] at hvisit
  · cases hvisit
    exact .inl ⟨hfin, rfl⟩
  · exact .inr (.inl ⟨hfin, onWay, hvisit⟩)
  · cases hvisit
  · cases hrun : (compiler.compileNode id node).run (compiler.visit graph less (id :: path) hless) progress with
    | error error => simp [hrun, Except.map] at hvisit
    | ok result =>
      simp only [hrun, Except.map, Except.ok.injEq, Prod.mk.injEq] at hvisit
      obtain ⟨rfl, rfl⟩ := hvisit
      exact .inr (.inr ⟨hfin, onWay, node, result.2, less, hless, hrounds, hnode, hrun, rfl⟩)

theorem visit_error_cases {h : (offPath graph path).length < rounds} {error : CompileError}
    (hvisit : compiler.visit graph rounds path h id progress = .error error) :
    (graph.get? id = none ∧ error = .missingNode id) ∨
      ∃ node less, ∃ hless : (offPath graph (id :: path)).length < less, less + 1 = rounds ∧ graph.get? id = some node ∧
        (compiler.compileNode id node).run (compiler.visit graph less (id :: path) hless) progress = .error error := by
  obtain ⟨_, _, heq⟩ | ⟨_, ⟨_, heq⟩ | ⟨_, ⟨hnone, heq⟩ | ⟨node, less, hless, hrounds, hnode, heq⟩⟩⟩ := visit_outcome h
  all_goals rw [heq] at hvisit
  · cases hvisit
  · rw [slotFor_eq] at hvisit
    split at hvisit <;> cases hvisit
  · cases hvisit
    exact .inl ⟨hnone, rfl⟩
  · cases hrun : (compiler.compileNode id node).run (compiler.visit graph less (id :: path) hless) progress with
    | error other =>
      simp only [hrun, Except.map, Except.error.injEq] at hvisit
      exact .inr ⟨node, less, hless, hrounds, hnode, hvisit ▸ hrun⟩
    | ok result => simp [hrun, Except.map] at hvisit

namespace Progress

/-- More nodes are finished and more slots made; what was there stays, except that slots are filled. -/
structure Extends (first second : Progress) : Prop where
  finished : ∀ id predicate, first.finished.lookup id = some predicate → second.finished.lookup id = some predicate
  slot : ∀ (index : Nat) (owner : SchemaId) (content : Option Predicate), first.slots[index]? = some (owner, content) →
    ∃ filled, second.slots[index]? = some (owner, filled)

instance : Preorder Progress where
  le := Extends
  le_refl progress := ⟨fun _ _ h => h, fun _ _ content h => ⟨content, h⟩⟩
  le_trans first second third h h' := by
    refine ⟨fun id predicate hid => h'.finished id predicate (h.finished id predicate hid), ?_⟩
    intro index owner content hslot
    obtain ⟨filled, hfilled⟩ := h.slot index owner content hslot
    exact h'.slot index owner filled hfilled

def Finished (progress : Progress) (id : SchemaId) : Prop := (progress.finished.lookup id).isSome

/-- A node may be referred to by its predicate, or by its slot. -/
def Stands (progress : Progress) (id : SchemaId) (predicate : Predicate) : Prop :=
  progress.finished.lookup id = some predicate ∨
    ∃ index content, predicate = .slot index ∧ progress.slots[index]? = some (id, content)

theorem Stands.mono (hle : progress ≤ next) (h : progress.Stands id predicate) : next.Stands id predicate := by
  rcases h with hfin | ⟨index, content, rfl, hslot⟩
  · exact .inl (hle.finished _ _ hfin)
  · obtain ⟨filled, hfilled⟩ := hle.slot _ _ _ hslot
    exact .inr ⟨index, filled, rfl, hfilled⟩

/-- What holds all through a build, with the nodes that are on the way. -/
structure Sound (compiler : Compiler) (graph : SchemaGraph) (path : List SchemaId) (progress : Progress) : Prop where
  /-- Nodes on the way are not finished. -/
  unfinished : ∀ id ∈ path, progress.finished.lookup id = none
  /-- A slot is empty as long as its node is on the way, and then holds its predicate. -/
  slot : ∀ (index : Nat) (owner : SchemaId) (content : Option Predicate),
    progress.slots[index]? = some (owner, content) → (owner ∈ path ∧ content = none) ∨
      ∃ predicate, content = some predicate ∧ progress.finished.lookup owner = some predicate
  owners : (progress.slots.map Prod.fst).Nodup
  /-- A predicate is made of what its node asks for. -/
  made : ∀ id predicate, progress.finished.lookup id = some predicate →
    ∃ node, graph.get? id = some node ∧ (compiler.compileNode id node).Yields progress.Stands predicate

theorem sound_empty (compiler : Compiler) (graph : SchemaGraph) : Sound compiler graph [] {} where
  unfinished := by simp
  slot := by simp
  owners := by simp
  made := by simp

theorem Sound.enter (h : Sound compiler graph path progress) (hid : progress.finished.lookup id = none) :
    Sound compiler graph (id :: path) progress where
  unfinished := by
    intro other hmem
    rcases List.mem_cons.mp hmem with rfl | hmem
    · exact hid
    · exact h.unfinished other hmem
  slot := by
    intro index owner content hslot
    exact (h.slot index owner content hslot).imp_left fun ⟨hmem, hnone⟩ => ⟨List.mem_cons_of_mem _ hmem, hnone⟩
  owners := h.owners
  made := h.made

theorem Sound.slotted (h : Sound compiler graph path progress) (hpath : id ∈ path)
    (hslot : slotFor id progress = .ok (predicate, next)) :
    (Sound compiler graph path next ∧ progress ≤ next) ∧ next.Stands id predicate := by
  rw [slotFor_eq] at hslot
  cases hfind : progress.slots.findIdx? (·.1 == id) with
  | some index =>
    simp only [hfind, Except.ok.injEq, Prod.mk.injEq] at hslot
    obtain ⟨rfl, rfl⟩ := hslot
    obtain ⟨hlt, hid, _⟩ := List.findIdx?_eq_some_iff_getElem.mp hfind
    refine ⟨⟨h, le_refl _⟩, .inr ⟨index, progress.slots[index].2, rfl, ?_⟩⟩
    rw [List.getElem?_eq_getElem hlt, ← eq_of_beq hid]
  | none =>
    simp only [hfind, Except.ok.injEq, Prod.mk.injEq] at hslot
    obtain ⟨rfl, rfl⟩ := hslot
    have hnew : ∀ slot ∈ progress.slots, slot.1 ≠ id := by
      simpa using List.findIdx?_eq_none_iff.mp hfind
    have hle : progress ≤ { progress with slots := progress.slots ++ [(id, none)] } := by
      refine ⟨fun _ _ hfin => hfin, fun index owner content hslot => ⟨content, ?_⟩⟩
      obtain ⟨hlt, _⟩ := List.getElem?_eq_some_iff.mp hslot
      rw [List.getElem?_append_left hlt, hslot]
    refine ⟨⟨⟨h.unfinished, ?_, ?_, ?_⟩, hle⟩, .inr ⟨progress.slots.length, none, rfl, by simp⟩⟩
    · intro index owner content hslot
      rw [List.getElem?_append] at hslot
      split at hslot
      · exact h.slot index owner content hslot
      · obtain ⟨rfl, rfl⟩ : owner = id ∧ content = none := by
          have hmem := List.mem_of_getElem? hslot
          simpa using hmem
        exact .inl ⟨hpath, rfl⟩
    · rw [List.map_append, List.nodup_append]
      refine ⟨h.owners, by simp, ?_⟩
      intro owner howner other hother
      obtain ⟨slot, hslot, rfl⟩ := List.mem_map.mp howner
      obtain rfl : other = id := by simpa using hother
      exact hnew slot hslot
    · intro other made hfin
      obtain ⟨node, hnode, hmade⟩ := h.made other made hfin
      exact ⟨node, hnode, hmade.mono fun _ _ hs => hs.mono hle⟩

theorem lookup_finish_self (id : SchemaId) (predicate : Predicate) (progress : Progress) :
    (finish id predicate progress).finished.lookup id = some predicate := by
  simp [finish]

theorem lookup_finish_of_ne {other : SchemaId} (hne : other ≠ id) :
    (finish id predicate progress).finished.lookup other = progress.finished.lookup other := by
  simp [finish, List.lookup_cons, beq_false_of_ne hne]

theorem slots_finish_iff {index : Nat} {owner : SchemaId} {content : Option Predicate} :
    (finish id predicate progress).slots[index]? = some (owner, content) ↔
      ∃ old, progress.slots[index]? = some (owner, old) ∧ content = if owner = id then some predicate else old := by
  simp only [finish, List.getElem?_map, Option.map_eq_some_iff, Prod.exists, Prod.mk.injEq]
  constructor
  · rintro ⟨owner, old, hold, rfl, rfl⟩
    exact ⟨old, hold, rfl⟩
  · rintro ⟨old, hold, rfl⟩
    exact ⟨owner, old, hold, rfl, rfl⟩

theorem le_finish (hunfinished : progress.finished.lookup id = none) (predicate : Predicate) :
    progress ≤ finish id predicate progress := by
  constructor
  · intro other made hfin
    have hne : other ≠ id := by
      rintro rfl
      simp [hunfinished] at hfin
    rw [lookup_finish_of_ne hne, hfin]
  · intro index owner content hslot
    exact ⟨_, slots_finish_iff.mpr ⟨content, hslot, rfl⟩⟩

theorem Sound.leave {node : SchemaNode} (h : Sound compiler graph (id :: path) progress) (hpath : id ∉ path)
    (hnode : graph.get? id = some node) (hmade : (compiler.compileNode id node).Yields progress.Stands predicate) :
    (Sound compiler graph path (finish id predicate progress) ∧ progress ≤ finish id predicate progress) ∧
      (finish id predicate progress).Stands id predicate := by
  have hself := lookup_finish_self id predicate progress
  have hle : progress ≤ finish id predicate progress := le_finish (h.unfinished id (List.mem_cons_self ..)) predicate
  refine ⟨⟨⟨?_, ?_, ?_, ?_⟩, hle⟩, .inl hself⟩
  · intro other hmem
    have hne : other ≠ id := fun heq => hpath (heq ▸ hmem)
    rw [lookup_finish_of_ne hne]
    exact h.unfinished other (List.mem_cons_of_mem _ hmem)
  · intro index owner content hslot
    obtain ⟨old, hold, rfl⟩ := slots_finish_iff.mp hslot
    by_cases howner : owner = id
    · subst howner
      exact .inr ⟨predicate, by simp, hself⟩
    · rw [if_neg howner, lookup_finish_of_ne howner]
      refine (h.slot index owner old hold).imp_left fun ⟨hmem, hnone⟩ => ⟨?_, hnone⟩
      exact (List.mem_cons.mp hmem).resolve_left howner
  · have hsame : (finish id predicate progress).slots.map Prod.fst = progress.slots.map Prod.fst := by
      simp only [finish, List.map_map]
      rfl
    rw [hsame]
    exact h.owners
  · intro other made hfin
    by_cases hne : other = id
    · subst hne
      obtain rfl : predicate = made := by simpa [hself] using hfin
      exact ⟨node, hnode, hmade.mono fun _ _ hs => hs.mono hle⟩
    · rw [lookup_finish_of_ne hne] at hfin
      obtain ⟨node', hnode', hmade'⟩ := h.made other made hfin
      exact ⟨node', hnode', hmade'.mono fun _ _ hs => hs.mono hle⟩

end Progress

theorem yields_compileCheck {fits : SchemaId → Predicate → Prop} {node : SchemaNode} {constraint : Constraint}
    {made : Option (Check Predicate)} (h : (compiler.compileCheck id node constraint).Yields fits made) :
    Option.Rel (Check.Agrees CompileError fits) (constraint compiler.engine id node).toOption.join made := by
  simp only [compileCheck, Inquiry.yields_bind, Inquiry.yields_ofExcept] at h
  obtain ⟨check, hcheck, hmade⟩ := h
  rw [hcheck]
  cases check with
  | none =>
    obtain rfl : made = none := by simpa using hmade
    exact .none
  | some check =>
    obtain ⟨other, hagrees, rfl⟩ : ∃ other, Check.Agrees CompileError fits check other ∧ made = some other := by
      simpa [Check.Agrees] using hmade
    exact .some hagrees

theorem yields_compileNode {fits : SchemaId → Predicate → Prop} {node : SchemaNode}
    (h : (compiler.compileNode id node).Yields fits predicate) :
    (∃ valid, node.valid = some valid ∧ predicate = .constant valid) ∨
    (node.valid = none ∧ ∃ checks, predicate = .all checks ∧
      List.Forall₂ (Check.Agrees CompileError fits)
        (SchemaGraph.checksAt compiler.engine compiler.constraints id node) checks) := by
  unfold compileNode at h
  cases hvalid : node.valid with
  | some valid =>
    simp only [hvalid, Inquiry.pure_eq, Inquiry.yields_done] at h
    exact .inl ⟨valid, rfl, h⟩
  | none =>
    simp only [hvalid, Inquiry.yields_bind, Inquiry.yields_mapM, Inquiry.pure_eq, Inquiry.yields_done] at h
    obtain ⟨results, hall, rfl⟩ := h
    refine .inr ⟨rfl, _, rfl, List.rel_filterMap ?_ hall⟩
    exact fun _ _ hyields => yields_compileCheck hyields

open Progress

/-- Every visit keeps what holds all through a build, and gives what stands for its node. -/
theorem visit_sound (h : (offPath graph path).length < rounds) (hsound : Sound compiler graph path progress)
    (hvisit : compiler.visit graph rounds path h id progress = .ok (predicate, next)) :
    (Sound compiler graph path next ∧ progress ≤ next) ∧ next.Stands id predicate := by
  induction rounds generalizing path id progress predicate next with
  | zero => exact absurd h (Nat.not_lt_zero _)
  | succ rounds ih =>
    rcases visit_cases hvisit with ⟨hfin, rfl⟩ | ⟨_, hpath, hslot⟩ |
      ⟨hfin, hpath, node, before, less, hless, hrounds, hnode, hrun, rfl⟩
    · exact ⟨⟨hsound, le_refl _⟩, .inl hfin⟩
    · exact hsound.slotted hpath hslot
    · obtain rfl : less = rounds := by omega
      have henter := hsound.enter hfin
      have hreach := Inquiry.reaches_of_run_eq_ok hrun
      have hstep : ∀ question state answer after, Sound compiler graph (id :: path) state →
          Inquiry.Responds (compiler.visit graph less (id :: path) hless) question state answer after →
          (Sound compiler graph (id :: path) after ∧ state ≤ after) ∧ after.Stands question answer :=
        fun question state answer after hstate hresp => ih hless hstate hresp
      obtain ⟨hbefore, hle⟩ := hreach.keeps (fun q s a n hs hr => (hstep q s a n hs hr).1) henter
      have hmade := hreach.yields (fun now => now.Stands) hstep (fun _ _ _ _ hle hs => hs.mono hle) henter
      obtain ⟨⟨hnext, hle'⟩, hstands⟩ := hbefore.leave hpath hnode hmade
      exact ⟨⟨hnext, le_trans hle hle'⟩, hstands⟩

theorem run_sound {root : SchemaId} (h : compiler.run graph root = .ok (predicate, progress)) :
    Sound compiler graph [] progress ∧ progress.Stands root predicate := by
  obtain ⟨⟨hsound, _⟩, hstands⟩ := visit_sound _ (sound_empty compiler graph) h
  exact ⟨hsound, hstands⟩

theorem mapM_eq_ok_iff_forall₂ {α β ε : Type} {f : α → Except ε β} {inputs : List α} {values : List β} :
    inputs.mapM f = .ok values ↔ List.Forall₂ (fun a b => f a = .ok b) inputs values := by
  induction inputs generalizing values with
  | nil => simp [pure, Except.pure, eq_comm]
  | cons input rest ih =>
    rw [List.mapM_cons, List.forall₂_cons_left_iff]
    cases hf : f input with
    | error => simp [bind, Except.bind]
    | ok value =>
      cases hrest : rest.mapM f with
      | error =>
        simp only [bind, Except.bind, reduceCtorEq, false_iff]
        rintro ⟨_, others, _, hothers, _⟩
        rw [← ih, hrest] at hothers
        cases hothers
      | ok others =>
        simp only [bind, Except.bind, pure, Except.pure, Except.ok.injEq, ← ih, hrest]
        constructor
        · rintro rfl
          exact ⟨value, others, rfl, rfl, rfl⟩
        · rintro ⟨_, _, rfl, rfl, rfl⟩
          rfl

/-- With nothing on the way every slot is filled, with the predicate of its node. -/
theorem table_of_sound (h : Sound compiler graph [] progress) :
    ∃ slots, table progress = .ok slots ∧
      List.Forall₂ (fun slot predicate => slot.2 = some predicate ∧ progress.finished.lookup slot.1 = some predicate)
        progress.slots slots := by
  have hfull : ∀ slot ∈ progress.slots, ∃ predicate, slot.2 = some predicate ∧
      progress.finished.lookup slot.1 = some predicate := by
    intro slot hmem
    obtain ⟨index, hindex⟩ := List.mem_iff_getElem?.mp hmem
    rcases h.slot index slot.1 slot.2 hindex with ⟨hpath, _⟩ | hfilled
    · simp at hpath
    · exact hfilled
  obtain ⟨slots, hslots⟩ : ∃ slots, List.Forall₂ (fun slot predicate => slot.2 = some predicate ∧
      progress.finished.lookup slot.1 = some predicate) progress.slots slots := by
    generalize progress.slots = entries at hfull
    induction entries with
    | nil => exact ⟨[], .nil⟩
    | cons slot rest ih =>
      obtain ⟨predicate, hslot⟩ := hfull slot (by simp)
      obtain ⟨slots, hrest⟩ := ih fun other hmem => hfull other (by simp [hmem])
      exact ⟨predicate :: slots, .cons hslot hrest⟩
  refine ⟨slots, mapM_eq_ok_iff_forall₂.mpr (hslots.imp ?_), hslots⟩
  rintro ⟨owner, _⟩ predicate ⟨rfl, _⟩
  rfl

/-- The table has the predicates of the nodes that own the slots. -/
def Tabled (progress : Progress) (slots : List Predicate) : Prop :=
  ∀ (index : Nat) (owner : SchemaId) (content : Option Predicate), progress.slots[index]? = some (owner, content) →
    ∃ predicate, progress.finished.lookup owner = some predicate ∧ slots[index]? = some predicate

theorem tabled_of_forall₂ {slots : List Predicate}
    (h : List.Forall₂ (fun slot predicate => slot.2 = some predicate ∧
      progress.finished.lookup slot.1 = some predicate) progress.slots slots) : Tabled progress slots := by
  intro index owner content hslot
  obtain ⟨hlt, hget⟩ := List.getElem?_eq_some_iff.mp hslot
  have hlt' : index < slots.length := h.length_eq ▸ hlt
  have hentry := h.get hlt hlt'
  simp only [List.get_eq_getElem, hget] at hentry
  exact ⟨_, hentry.2, List.getElem?_eq_getElem hlt'⟩

theorem compile_cases {schema : Schema} {validator : Validator} (h : compiler.compile schema = .ok validator) :
    ∃ progress, compiler.run schema.graph schema.root = .ok (validator.root, progress) ∧ validator.schema = schema ∧
      List.Forall₂ (fun slot predicate => slot.2 = some predicate ∧ progress.finished.lookup slot.1 = some predicate)
        progress.slots validator.slots := by
  unfold compile at h
  cases hrun : compiler.run schema.graph schema.root with
  | error other => simp [hrun, bind, Except.bind] at h
  | ok result =>
    obtain ⟨root, progress⟩ := result
    obtain ⟨slots, hslots, hall⟩ := table_of_sound (run_sound hrun).1
    simp only [hrun, hslots, bind, Except.bind, pure, Except.pure, Except.ok.injEq] at h
    subst h
    exact ⟨progress, rfl, rfl, hall⟩

end JsonSchema.Compiler
