/-!
Histories of calls on a state. A call is answered, and leaves a state, whether it succeeds or fails;
what every single call keeps is kept by every history.
-/

set_option autoImplicit false

namespace SealedToken

variable {State Call Answer View : Type}

/-- The state after calls in turn. -/
def afterCalls (act : State → Call → Answer × State) (state : State) (calls : List Call) : State :=
  calls.foldl (fun state call => (act state call).2) state

variable {act : State → Call → Answer × State} {state : State} {calls : List Call}

theorem afterCalls_append (more : List Call) :
    afterCalls act state (calls ++ more) = afterCalls act (afterCalls act state calls) more :=
  List.foldl_append

theorem afterCalls_append_singleton (call : Call) :
    afterCalls act state (calls ++ [call]) = (act (afterCalls act state calls) call).2 :=
  afterCalls_append [call]

theorem afterCalls_keeps (Holds : State → Prop) (start : Holds state)
    (step : ∀ before call, Holds before → Holds (act before call).2) :
    Holds (afterCalls act state calls) :=
  List.foldlRecOn (motive := Holds) calls _ start fun before holds call _ => step before call holds

/-- A view that each call changes in a way of its own. -/
theorem view_afterCalls {view : State → View} {change : View → Call → View}
    (step : ∀ state call, view (act state call).2 = change (view state) call) :
    view (afterCalls act state calls) = calls.foldl change (view state) :=
  (List.foldl_hom view fun state call => (step state call).symm).symm

end SealedToken
