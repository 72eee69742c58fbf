/-!
# Acts in a row

Whatever takes acts has a step: what comes of one act, and how it stands then. Here are the acts in a row: how
it stands after all of them, the log of what came of each, and what else is seen on the way. A history is read
from its end, so each is told for one more act.
-/

set_option autoImplicit false

namespace Phrasebook.Acts

variable {σ α ρ β : Type} (step : σ → α → ρ × σ)

/-- How it stands after some acts, the first first. -/
def after (s : σ) (acts : List α) : σ := acts.foldl (fun s a => (step s a).2) s

/-- The acts, each with what came of it. -/
def log : σ → List α → List (α × ρ)
  | _, [] => []
  | s, a :: acts => (a, (step s a).1) :: log (step s a).2 acts

/-- What is seen of the acts, of each by how it stood before it. -/
def gather (look : σ → α → Option β) : σ → List α → List β
  | _, [] => []
  | s, a :: acts => (look s a).toList ++ gather look (step s a).2 acts

@[simp] theorem after_nil (s : σ) : after step s [] = s := rfl

/-- The first act is done first, and the others from where it leads. -/
theorem after_cons (s : σ) (a : α) (acts : List α) :
    after step s (a :: acts) = after step (step s a).2 acts := rfl

@[simp] theorem log_nil (s : σ) : log step s [] = [] := rfl

@[simp] theorem gather_nil (look : σ → α → Option β) (s : σ) : gather step look s [] = [] := rfl

/-- The last act is done from where the others have led. -/
theorem after_concat (s : σ) (acts : List α) (a : α) :
    after step s (acts ++ [a]) = (step (after step s acts) a).2 := by
  simp only [after, List.foldl_append, List.foldl_cons, List.foldl_nil]

/-- What came of the last act is written down last. -/
theorem log_concat (s : σ) (acts : List α) (a : α) :
    log step s (acts ++ [a]) = log step s acts ++ [(a, (step (after step s acts) a).1)] := by
  induction acts generalizing s with
  | nil => rfl
  | cons b acts ih =>
    rw [List.cons_append, log, ih, log, List.cons_append]
    rfl

/-- What is seen of the last act is seen last. -/
theorem gather_concat (look : σ → α → Option β) (s : σ) (acts : List α) (a : α) :
    gather step look s (acts ++ [a]) =
      gather step look s acts ++ (look (after step s acts) a).toList := by
  induction acts generalizing s with
  | nil => simp [gather]
  | cons b acts ih =>
    rw [List.cons_append, gather, ih, gather, List.append_assoc]
    rfl

end Phrasebook.Acts
