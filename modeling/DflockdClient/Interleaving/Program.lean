/-!
Programs of one thread over a set of primitive operations, with exceptions.
A program is the tree of its possible continuations: each operation is followed
by one subtree for every result it can have. Nothing here names a client.
-/

namespace Interleaving

inductive Program (Op : Type) (Res : Op → Type) (Err : Type) (α : Type) where
  | ret (value : α)
  | raise (error : Err)
  | act (op : Op) (next : Res op → Program Op Res Err α)

namespace Program

variable {Op : Type} {Res : Op → Type} {Err : Type} {α β γ : Type}

def bind (program : Program Op Res Err α) (rest : α → Program Op Res Err β) :
    Program Op Res Err β :=
  match program with
  | .ret value => rest value
  | .raise error => .raise error
  | .act op next => .act op fun result => (next result).bind rest

def handle (program : Program Op Res Err α) (handler : Err → Program Op Res Err α) :
    Program Op Res Err α :=
  match program with
  | .ret value => .ret value
  | .raise error => handler error
  | .act op next => .act op fun result => (next result).handle handler

instance : Monad (Program Op Res Err) where
  pure := .ret
  bind := bind

instance : MonadExceptOf Err (Program Op Res Err) where
  throw := .raise
  tryCatch := handle

def perform (op : Op) : Program Op Res Err (Res op) :=
  .act op .ret

/-- `try: program finally: cleanup`. -/
def ensure (program : Program Op Res Err α) (cleanup : Program Op Res Err Unit) :
    Program Op Res Err α := do
  let value ← program.handle fun error => do
    cleanup
    .raise error
  cleanup
  pure value

/-- An operation whose result may be an exception. -/
def orRaise (outcome : Except Err α) : Program Op Res Err α :=
  match outcome with
  | .ok value => .ret value
  | .error error => .raise error

@[simp] theorem pure_eq (value : α) : (pure value : Program Op Res Err α) = .ret value := rfl

@[simp] theorem throw_eq (error : Err) : (throw error : Program Op Res Err α) = .raise error := rfl

@[simp] theorem ret_bind (value : α) (rest : α → Program Op Res Err β) :
    ((.ret value : Program Op Res Err α) >>= rest) = rest value := rfl

@[simp] theorem raise_bind (error : Err) (rest : α → Program Op Res Err β) :
    ((.raise error : Program Op Res Err α) >>= rest) = .raise error := rfl

@[simp] theorem act_bind (op : Op) (next : Res op → Program Op Res Err α)
    (rest : α → Program Op Res Err β) :
    ((.act op next : Program Op Res Err α) >>= rest) =
      .act op fun result => next result >>= rest := rfl

@[simp] theorem ret_handle (value : α) (handler : Err → Program Op Res Err α) :
    (ret value : Program Op Res Err α).handle handler = .ret value := rfl

@[simp] theorem raise_handle (error : Err) (handler : Err → Program Op Res Err α) :
    (raise error : Program Op Res Err α).handle handler = handler error := rfl

@[simp] theorem act_handle (op : Op) (next : Res op → Program Op Res Err α)
    (handler : Err → Program Op Res Err α) :
    (act op next).handle handler = .act op fun result => (next result).handle handler := rfl

@[simp] theorem tryCatch_eq (program : Program Op Res Err α)
    (handler : Err → Program Op Res Err α) :
    tryCatch program handler = program.handle handler := rfl

@[simp] theorem tryCatchThe_eq (program : Program Op Res Err α)
    (handler : Err → Program Op Res Err α) :
    tryCatchThe Err program handler = program.handle handler := rfl

/-- How a finished program ended; `none` while it still has an operation to perform. -/
def outcome (program : Program Op Res Err α) : Option (Except Err α) :=
  match program with
  | .ret value => some (.ok value)
  | .raise error => some (.error error)
  | .act _ _ => none

@[simp] theorem outcome_ret (value : α) :
    (ret value : Program Op Res Err α).outcome = some (.ok value) := rfl

@[simp] theorem outcome_raise (error : Err) :
    (raise error : Program Op Res Err α).outcome = some (.error error) := rfl

@[simp] theorem outcome_act (op : Op) (next : Res op → Program Op Res Err α) :
    (act op next).outcome = none := rfl

theorem map_id' (program : Program Op Res Err α) : id <$> program = program := by
  induction program with
  | ret value => rfl
  | raise error => rfl
  | act op next ih => exact congrArg (Program.act op) (funext ih)

theorem bind_bind (program : Program Op Res Err α) (first : α → Program Op Res Err β)
    (second : β → Program Op Res Err γ) :
    program >>= first >>= second = program >>= fun value => first value >>= second := by
  induction program with
  | ret value => rfl
  | raise error => rfl
  | act op next ih => exact congrArg (Program.act op) (funext ih)

instance : LawfulMonad (Program Op Res Err) :=
  LawfulMonad.mk' _ map_id' (fun _ _ => rfl) bind_bind

end Program

end Interleaving
