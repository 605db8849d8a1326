import JsonSchema.CommandLine.Report

/-!
Steps in a tree of files. Standard input is there once: what is read of it is not there afterwards. Nothing else that is
asked of a tree looks at it, so which files a pattern stands for depends on the tree alone.
-/
namespace JsonSchema

/-- What is still to be read of standard input: a text, or what cannot be read as one. -/
abbrev StandardInput := Except FileError String

namespace FileTree

def opened (tree : FileTree) : Files (StateM StandardInput) := tree.accessWith (modifyGet fun left => (left, .ok ""))

variable (tree : FileTree) (path : String)

end FileTree

namespace Glob

variable {tree : FileTree} {directories : Bool} {descend : Descent (StateM StandardInput)} {descend' : Descent Id}

end Glob

namespace CommandLine

open FileTree

variable {α β : Type}

abbrev Steps (α : Type) := ExceptT Failure (StateM StandardInput) α

/-- With so much left of standard input, some steps come to a value that is as it should be, or else they fail and
that is as it should be. -/
def Comes (x : Steps α) (left : StandardInput) (holds : α → StandardInput → Prop) (fails : Prop) : Prop :=
  match (x.run.run left).run with
  | (.ok value, after) => holds value after
  | (.error _, _) => fails

variable {x : Steps α} {left : StandardInput} {holds : α → StandardInput → Prop} {fails : Prop}

theorem Comes.bind {f : α → Steps β} {holds' : β → StandardInput → Prop} (hx : Comes x left holds fails)
    (hf : ∀ value after, holds value after → Comes (f value) after holds' fails) :
    Comes (x >>= f) left holds' fails := by
  unfold Comes at hx
  rw [Comes, ExceptT.run_bind, StateT.run_bind, Id.run_bind]
  generalize (x.run.run left).run = outcome at hx ⊢
  obtain ⟨_ | value, after⟩ := outcome
  · exact hx
  · exact hf value after hx

theorem Comes.mono {holds' : α → StandardInput → Prop} {fails' : Prop} (h : Comes x left holds fails)
    (himp : ∀ value after, holds value after → holds' value after) (himp' : fails → fails') :
    Comes x left holds' fails' := by
  unfold Comes at h ⊢
  split <;> simp_all

theorem Comes.adapt (h : Comes x left holds fails) (f : Failure → Failure) :
    Comes (x.adapt f) left holds fails := by
  unfold Comes at h ⊢
  have hrun : ((x.adapt f).run.run left).run =
      ((x.run.run left).run.1.mapError f, (x.run.run left).run.2) := rfl
  rw [hrun]
  generalize (x.run.run left).run = outcome at h ⊢
  obtain ⟨_ | value, after⟩ := outcome <;> exact h

end CommandLine

end JsonSchema
