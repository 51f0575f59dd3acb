import TransactDerive.Expand
import TransactDerive.Companion

/-! # What the generated code does

A value of the generated builder is a companion: the `Option` each field holds,
by name. `new` is `Default::default()`, a setter is called by its name, and
`build` runs its statements in order and then initialises each field of the
struct from the binding of the same name. A statement that names no field of
the builder, or a struct field with no binding, would not type-check; it is
`none` here.
-/

namespace TransactDerive

variable {Val : Type}

def BuilderStruct.new (_ : BuilderStruct) : Companion Val := Companion.empty

/-- A setter: `self.#field = Some(value); self`. -/
def Setter.apply (s : Setter) (b : Companion Val) (v : Val) : Companion Val :=
  b.set s.field v

/-- The method call `b.#name(v)`, when the builder has a setter of that name. -/
def BuilderStruct.call (bs : BuilderStruct) (b : Companion Val) (name : Ident) (v : Val) :
    Option (Companion Val) :=
  (bs.setters.find? (·.name == name)).map (·.apply b v)

/-- A chain of setter calls, `#builder_name::new().#name₁(v₁).#name₂(v₂)…`. -/
def BuilderStruct.runCalls (bs : BuilderStruct) (calls : List (Ident × Val)) :
    Option (Companion Val) :=
  calls.foldlM (fun b c => bs.call b c.1 c.2) bs.new

/-- A getter, `&self.#name`, on a struct given by its field initialisers: the
`&str`, `&[T]` or `&T` it returns borrows the value of the field of that name. -/
def Getter.read (g : Getter) (s : List (Ident × Val)) : Option Val := s.lookup g.name

section Build
variable (dflt : Ty → Val)

/-- One statement of `build` run against `self`: the binding it makes, or the
error its `?` returns. The default of `unwrap_or_default` is that of the type
of the field in the builder. -/
def LetStmt.eval (bs : BuilderStruct) (self : Companion Val) :
    LetStmt → Option (Except BuilderError (Ident × Val))
  | .unwrapOrDefault f => (bs.fields.lookup f).map fun ty => .ok (f, (self f).getD (dflt ty))
  | .okOrElse f => (bs.fields.lookup f).map fun _ =>
      match self f with
      | some v => .ok (f, v)
      | none => .error (.missingField f.toString)

def runLets (bs : BuilderStruct) (self : Companion Val) :
    List LetStmt → List (Ident × Val) → Option (Except BuilderError (List (Ident × Val)))
  | [], env => some (.ok env)
  | s :: ss, env =>
    match s.eval dflt bs self with
    | none => none
    | some (.error e) => some (.error e)
    | some (.ok b) => runLets bs self ss (b :: env)

/-- `build(self)`: the statements, then `Ok(#struct_name { #(#field_names),* })`. -/
def BuildImpl.run (impl : BuildImpl) (bs : BuilderStruct) (self : Companion Val) :
    Option (Except BuilderError (List (Ident × Val))) :=
  match runLets dflt bs self impl.letStmts [] with
  | none => none
  | some (.error e) => some (.error e)
  | some (.ok env) => (impl.fieldNames.mapM fun n => (env.lookup n).map (n, ·)).map .ok

variable {dflt}

theorem runLets_map {α : Type} {bs : BuilderStruct} {self : Companion Val} {gs : List α}
    (stmt : α → LetStmt) (r : α → Except BuilderError (Ident × Val))
    (hr : ∀ g ∈ gs, (stmt g).eval dflt bs self = some (r g)) (env : List (Ident × Val)) :
    runLets dflt bs self (gs.map stmt) env =
      some ((fun bs => bs.reverse ++ env) <$> gs.mapM r) := by
  induction gs generalizing env with
  | nil => rfl
  | cons g gs ih =>
    rw [List.map_cons, runLets, hr g (List.mem_cons_self _ _), List.mapM_cons]
    cases r g with
    | error e => rfl
    | ok b =>
      simp only [ih (fun g hg => hr g (List.mem_cons_of_mem _ hg)) (b :: env)]
      cases gs.mapM r <;> simp [bind, Except.bind, pure, Except.pure, Functor.map, Except.map]

end Build

end TransactDerive
