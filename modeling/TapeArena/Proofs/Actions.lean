/-!
Computations on a state that may fail. Of two computations in order, the second one starts where the first one
left the state, if that succeeded; a failure ends both and leaves the state where it came up.
-/
namespace TapeArena.Action
variable {S ε ε' α β : Type} {action : ExceptT ε (StateM S) α} {next : α → ExceptT ε (StateM S) β} {s after : S}

theorem bind_of_ok {a : α} (done : action s = (.ok a,after)) : (action >>= next) s = next a after := by
  simp only [bind,ExceptT.bind,ExceptT.mk,StateT.bind,done]
  rfl
theorem bind_of_fst {a : α} (succeeds : (action s).1 = .ok a) : (action >>= next) s = next a (action s).2 :=
  bind_of_ok (Prod.ext succeeds rfl)
theorem bind_of_error {error : ε} (failed : action s = (.error error,after)) :
    (action >>= next) s = (.error error,after) := by
  simp only [bind,ExceptT.bind,ExceptT.mk,StateT.bind,failed]
  rfl

/-- If the second of two computations leaves the state alone, only the results are put together. -/
theorem bind_of_steady {result : Except ε α} {rest : α → Except ε β} (first : action s = (result,after))
    (later : ∀ a, next a after = (rest a,after)) : (action >>= next) s = (result >>= rest,after) := by
  cases result with
  | ok a => exact (bind_of_ok first).trans (later a)
  | error error => exact bind_of_error first

/-- Computations on the elements of a list, each of which leaves the state alone. -/
theorem mapM_of_steady {items : List β} {each : β → ExceptT ε (StateM S) α} {result : β → Except ε α}
    (steady : ∀ b, each b s = (result b,s)) : items.mapM each s = (items.mapM result,s) := by
  induction items with
  | nil => rfl
  | cons first rest ih =>
    rw [List.mapM_cons,List.mapM_cons]
    exact bind_of_steady (steady first) fun a => bind_of_steady ih fun more => rfl

theorem bind_get {next : S → ExceptT ε (StateM S) β} : (get >>= next) s = next s s := rfl

/-- Two computations succeed in order only if both do. -/
theorem of_bind_ok {b : β} (done : (action >>= next) s = (.ok b,after)) :
    ∃ a between, action s = (.ok a,between) ∧ next a between = (.ok b,after) := by
  rcases first : action s with ⟨result,between⟩
  cases result with
  | ok a => exact ⟨a,between,rfl,(bind_of_ok first).symm.trans done⟩
  | error error => cases (bind_of_error first).symm.trans done

/-- Other words for a failure make no difference to a success. -/
theorem adapt_of_ok {a : α} (f : ε → ε') (done : action s = (.ok a,after)) : action.adapt f s = (.ok a,after) := by
  have adapted : action.adapt f s = ((action s).1.mapError f,(action s).2) := rfl
  rw [adapted,done]
  rfl

theorem adapt_of_error {error : ε} (f : ε → ε') (failed : action s = (.error error,after)) :
    action.adapt f s = (.error (f error),after) := by
  have adapted : action.adapt f s = ((action s).1.mapError f,(action s).2) := rfl
  rw [adapted,failed]
  rfl

end TapeArena.Action
