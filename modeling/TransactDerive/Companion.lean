import TransactDerive.Syn
import Mathlib.Logic.Function.Basic

/-! # Companion types, as the specification describes them

A record declaration lists its fields in order, with distinct names, each
required or defaultable. Its companion holds one presence box per field:
writes fill boxes, the last write to a box wins, and validation resolves the
fields in declared order, stopping at the first absent required one.
-/

namespace TransactDerive

/-- `BuilderError`, the only error of a validating constructor. -/
inductive BuilderError where
  | missingField (name : String)
  deriving DecidableEq, Repr

/-- A field of a record declaration; a defaultable field that is absent resolves
to the default of its type. -/
structure FieldDecl where
  name : Ident
  ty : Ty
  defaultable : Bool

/-- A record declaration: its fields in declared order, with distinct names. -/
structure RecordDecl where
  fields : List FieldDecl
  names_nodup : (fields.map (·.name)).Nodup

/-- A companion instance: the presence box of each field, by name. -/
abbrev Companion (Val : Type) := Ident → Option Val

variable {Val : Type}

def Companion.empty : Companion Val := fun _ => none

def Companion.set (c : Companion Val) (name : Ident) (v : Val) : Companion Val :=
  Function.update c name (some v)

/-- The value of the last write to a key, if there is one. -/
def lastWrite {κ : Type} [DecidableEq κ] : List (κ × Val) → κ → Option Val
  | [], _ => none
  | w :: ws, k => (lastWrite ws k).or (if w.1 = k then some w.2 else none)

theorem Companion.set_apply (c : Companion Val) (name k : Ident) (v : Val) :
    c.set name v k = if name = k then some v else c k := by
  by_cases h : name = k
  · subst h; simp [Companion.set]
  · simp [Companion.set, Function.update_apply, h, Ne.symm h]

theorem lastWrite_eq_none {κ : Type} [DecidableEq κ] {ws : List (κ × Val)} {k : κ}
    (h : k ∉ ws.map Prod.fst) : lastWrite ws k = none := by
  induction ws with
  | nil => rfl
  | cons w ws ih =>
    rw [List.map_cons, List.mem_cons, not_or] at h
    simp [lastWrite, ih h.2, Ne.symm h.1]

theorem lastWrite_of_mem {κ : Type} [DecidableEq κ] {ws : List (κ × Val)} {k : κ} {v : Val}
    (hws : (ws.map Prod.fst).Nodup) (h : (k, v) ∈ ws) : lastWrite ws k = some v := by
  induction ws with
  | nil => cases h
  | cons w ws ih =>
    rw [List.map_cons, List.nodup_cons] at hws
    rcases List.mem_cons.mp h with rfl | h
    · simp [lastWrite, lastWrite_eq_none hws.1]
    · simp [lastWrite, ih hws.2 h]

theorem lastWrite_filterMap {ι κ : Type} [DecidableEq ι] [DecidableEq κ] (key : ι → κ)
    (st : ι → Option Val) (l : List ι) (i : ι) (hinj : ∀ j ∈ l, key j = key i → j = i) :
    lastWrite (l.filterMap fun j => (st j).map (key j, ·)) (key i) =
      if i ∈ l then st i else none := by
  induction l with
  | nil => rfl
  | cons j l ih =>
    have ih := ih fun j' hj' => hinj j' (List.mem_cons_of_mem _ hj')
    by_cases hji : j = i
    · subst hji
      cases hs : st j <;> simp [List.filterMap_cons, hs, lastWrite, ih, em]
    · have hkey : key j ≠ key i := fun h => hji (hinj j (List.mem_cons_self _ _) h)
      cases hs : st j <;> simp [List.filterMap_cons, hs, lastWrite, ih, hkey, Ne.symm hji]

section Validate
variable (dflt : Ty → Val)

/-- How validation resolves one field: to its value if present, to the default
of its type if absent and defaultable, and otherwise to the error that ends
validation. -/
def FieldDecl.resolve (f : FieldDecl) (c : Companion Val) : Except BuilderError (Ident × Val) :=
  match c f.name with
  | some v => .ok (f.name, v)
  | none => if f.defaultable then .ok (f.name, dflt f.ty) else .error (.missingField f.name.toString)

/-- The validating constructor: the fields resolved in declared order, failing at
the first that cannot be. -/
def RecordDecl.validate (decl : RecordDecl) (c : Companion Val) :
    Except BuilderError (List (Ident × Val)) :=
  decl.fields.mapM (·.resolve dflt c)

variable {dflt}

theorem FieldDecl.resolve_ok {f : FieldDecl} {c : Companion Val}
    (h : f.defaultable = false → (c f.name).isSome) :
    f.resolve dflt c = .ok (f.name, (c f.name).getD (dflt f.ty)) := by
  unfold resolve
  cases hc : c f.name with
  | some v => rfl
  | none => cases hd : f.defaultable <;> simp_all

theorem mapM_resolve_ok {fs : List FieldDecl} {c : Companion Val}
    (h : ∀ f ∈ fs, f.defaultable = false → (c f.name).isSome) :
    fs.mapM (·.resolve dflt c) = .ok (fs.map fun f => (f.name, (c f.name).getD (dflt f.ty))) := by
  induction fs with
  | nil => rfl
  | cons f fs ih =>
    simp only [List.mapM_cons, FieldDecl.resolve_ok (h f (List.mem_cons_self _ _)),
      ih fun g hg => h g (List.mem_cons_of_mem _ hg)]
    rfl

theorem mapM_resolve_eq_ok {fs : List FieldDecl} {c : Companion Val}
    {rs : List (Ident × Val)} (h : fs.mapM (·.resolve dflt c) = .ok rs) :
    rs = fs.map fun f => (f.name, (c f.name).getD (dflt f.ty)) := by
  induction fs generalizing rs with
  | nil => cases h; rfl
  | cons f fs ih =>
    rw [List.mapM_cons] at h
    have hf : ∀ r, f.resolve dflt c = .ok r → r = (f.name, (c f.name).getD (dflt f.ty)) := by
      intro r hr
      unfold FieldDecl.resolve at hr
      split at hr <;> rename_i hc
      · cases hr; simp [hc]
      · split at hr <;> cases hr; simp [hc]
    revert h
    cases hr : f.resolve dflt c <;> cases hs : fs.mapM (·.resolve dflt c) <;> rintro ⟨⟩
    rw [hf _ hr, ih hs]
    rfl

theorem mapM_resolve_missing {pre post : List FieldDecl} {f : FieldDecl} {c : Companion Val}
    (hpre : ∀ g ∈ pre, g.defaultable = false → (c g.name).isSome)
    (hf : f.defaultable = false) (hc : c f.name = none) :
    (pre ++ f :: post).mapM (·.resolve dflt c) = .error (.missingField f.name.toString) := by
  have hres : f.resolve dflt c = .error (.missingField f.name.toString) := by
    simp [FieldDecl.resolve, hc, hf]
  rw [List.mapM_append, mapM_resolve_ok hpre, List.mapM_cons, hres]
  rfl

end Validate

end TransactDerive
