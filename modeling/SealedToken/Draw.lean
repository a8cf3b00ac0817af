import SealedToken.Attempt
import SealedToken.Key.ByteSource

/-!
Attempts that draw from the stream of random bytes. What a step has drawn stays used up, whatever
becomes of the steps behind it.
-/

set_option autoImplicit false

namespace SealedToken

/-- What an attempt comes to, and what it leaves of the stream. -/
structure Drawn (Fault Value : Type) extends Attempt Fault Value where
  left : ByteSource

def Draw (Fault Value : Type) : Type := ByteSource → Drawn Fault Value

namespace Draw

variable {Fault Other Value Next : Type}

/-- An attempt that draws nothing. -/
def ofAttempt (attempt : Attempt Fault Value) : Draw Fault Value := fun source => ⟨attempt, source⟩

def ofExcept (result : Except Fault Value) : Draw Fault Value := ofAttempt (.ofExcept result)

def fail (fault : Fault) : Draw Fault Value := ofAttempt (.fail fault)

def bind (draw : Draw Fault Value) (next : Value → Draw Fault Next) : Draw Fault Next :=
  fun source =>
    let drawn := draw source
    match drawn.result with
    | .error fault => ⟨⟨.error fault, drawn.events⟩, drawn.left⟩
    | .ok value =>
      let further := next value drawn.left
      ⟨⟨further.result, drawn.events ++ further.events⟩, further.left⟩

instance : Monad (Draw Fault) where
  pure value := ofAttempt (pure value)
  bind := bind

def mapFault (change : Fault → Other) (draw : Draw Fault Value) : Draw Other Value :=
  fun source => ⟨(draw source).toAttempt.mapFault change, (draw source).left⟩

def nonce : Draw Fault Nonce := fun source => ⟨pure source.nonce, source.afterNonce⟩

/-- What is made of a value changes neither the events nor what is left. -/
theorem bind_pure_apply (draw : Draw Fault Value) (make : Value → Next) (source : ByteSource) :
    (draw >>= fun value => pure (make value)) source =
      ⟨⟨(draw source).result.map make, (draw source).events⟩, (draw source).left⟩ := by
  change Draw.bind draw _ source = _
  unfold Draw.bind
  obtain ⟨⟨result, events⟩, left⟩ := draw source
  cases result with
  | error fault => rfl
  | ok value =>
    change Drawn.mk (Attempt.mk (.ok (make value)) (events ++ [])) left = _
    rw [List.append_nil]
    rfl

end Draw

end SealedToken
