import PgJson.Log.Trace

namespace PgJson.Log

structure Recorded (α : Type) where
  value : α
  traces : List Trace := []
  deriving Repr

namespace Recorded

instance : Monad Recorded where
  pure a := ⟨a, []⟩
  bind r f := ⟨(f r.value).value, r.traces ++ (f r.value).traces⟩

def record (e : Event) : Recorded Unit := ⟨(), [.event e]⟩

def within {α : Type} (s : Span) (r : Recorded α) : Recorded α := ⟨r.value, [.span s r.traces]⟩

section

variable {α β : Type}

@[simp] theorem value_pure (a : α) : (pure a : Recorded α).value = a := rfl

@[simp] theorem traces_pure (a : α) : (pure a : Recorded α).traces = [] := rfl

@[simp] theorem value_bind (r : Recorded α) (f : α → Recorded β) :
    (r >>= f).value = (f r.value).value := rfl

@[simp] theorem traces_bind (r : Recorded α) (f : α → Recorded β) :
    (r >>= f).traces = r.traces ++ (f r.value).traces := rfl

@[simp] theorem value_within (s : Span) (r : Recorded α) : (r.within s).value = r.value := rfl

@[simp] theorem traces_within (s : Span) (r : Recorded α) :
    (r.within s).traces = [.span s r.traces] := rfl

end

end Recorded
end PgJson.Log
