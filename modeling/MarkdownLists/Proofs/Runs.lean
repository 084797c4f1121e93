import MarkdownLists.Indentation

/-! # Actions that always succeed

Most actions of a rendering cannot fail, and what they give and log is a function of the context they start
in. Such a function is put together along the steps of the action, so that nothing later has to follow
the world through a rendering.
-/

namespace MarkdownLists.Render
set_option autoImplicit false

variable {ω ε α β : Type}

theorem bind_apply_ok {a : Render ω ε α} {k : α → Render ω ε β} {w after : World ω} {x : α}
    (h : a w = (.ok x, after)) : (a >>= k) w = k x after := by
  change (ExceptT.bindCont k (a w).1 : StateM (World ω) _) (a w).2 = k x after
  rw [h]
  rfl

theorem bind_apply_error {a : Render ω ε α} {k : α → Render ω ε β} {w after : World ω} {f : Failure ε}
    (h : a w = (.error f, after)) : (a >>= k) w = (.error f, after) := by
  change (ExceptT.bindCont k (a w).1 : StateM (World ω) _) (a w).2 = _
  rw [h]
  rfl

theorem context_bind_apply (k : Context → Render ω ε β) (w : World ω) :
    (Render.context >>= k) w = k w.context w := rfl

/-- The action succeeds in every world, gives `result`, adds `logged` to the log, and leaves the context as
it was. -/
def Runs (a : Render ω ε α) (result : Context → α) (logged : Context → List ω) : Prop :=
  ∀ w : World ω, a w = (.ok (result w.context), ⟨w.context, w.log ++ logged w.context⟩)

namespace Runs

theorem pure (x : α) : Runs (Pure.pure x : Render ω ε α) (fun _ => x) fun _ => [] := by
  intro w
  rw [List.append_nil]
  rfl

theorem context : Runs (Render.context : Render ω ε Context) id fun _ => [] := by
  intro w
  rw [List.append_nil]
  rfl

theorem emit (entry : ω) : Runs (Render.emit entry : Render ω ε Unit) (fun _ => ()) fun _ => [entry] :=
  fun _ => rfl

theorem bind {a : Render ω ε α} {k : α → Render ω ε β} {f : Context → α} {g : Context → List ω}
    {f' : α → Context → β} {g' : α → Context → List ω}
    (ha : Runs a f g) (hk : ∀ x, Runs (k x) (f' x) (g' x)) :
    Runs (a >>= k) (fun c => f' (f c) c) fun c => g c ++ g' (f c) c := by
  intro w
  rw [bind_apply_ok (ha w), hk, List.append_assoc]

theorem map {a : Render ω ε α} {f : Context → α} {g : Context → List ω} (ha : Runs a f g) (h : α → β) :
    Runs (do return h (← a)) (fun c => h (f c)) g := by
  simpa using ha.bind fun x => pure (h x)

/-- The body sees the indented context, and the context after it is the one before it again. -/
theorem indented {a : Render ω ε α} {f : Context → α} {g : Context → List ω} (ha : Runs a f g)
    (width : Nat) :
    Runs (Render.indented width a) (fun c => f (c.enter width)) fun c => g (c.enter width) := by
  intro w
  rw [Render.indented, ha]
  simp

end Runs

end MarkdownLists.Render
