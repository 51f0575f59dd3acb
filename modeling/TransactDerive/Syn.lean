import Mathlib.Data.List.Basic

/-! # The derive input, as `syn` parses it

The fragment of `syn`'s tree that the builder derive reads: identifiers,
attributes and the meta forms `parse_meta` finds in them, path types with their
generic arguments, and the fields of a struct. The derive fails in one of two
ways, kept apart here: with a `syn::Error`, which is reported at the input, or
with a panic.
-/

namespace TransactDerive

/-- A `proc_macro2::Ident`: its text, and whether it was written raw (`r#type`). -/
structure Ident where
  sym : String
  raw : Bool
  deriving DecidableEq, Repr

/-- The `Display` text of an identifier, which `to_string`, `format!` and
`stringify!` produce. -/
def Ident.toString (i : Ident) : String :=
  if i.raw then "r#" ++ i.sym else i.sym

@[simp] theorem Ident.toString_of_not_raw (i : Ident) (h : i.raw = false) :
    i.toString = i.sym := by
  simp [Ident.toString, h]

/-- Unicode's `XID_Start` and `XID_Continue` past ASCII, which `proc_macro2`
reads from the `unicode-xid` tables. Every `XID_Start` character is an
`XID_Continue` one. -/
structure XidTables where
  isStart : Char → Bool
  isContinue : Char → Bool
  continue_of_start : ∀ c, isStart c = true → isContinue c = true

section Idents
variable (xid : XidTables)

def isIdentStart (c : Char) : Bool :=
  c.isAlpha || c == '_' || (decide ('\x7f' < c) && xid.isStart c)

def isIdentContinue (c : Char) : Bool :=
  c.isAlpha || c == '_' || c.isDigit || (decide ('\x7f' < c) && xid.isContinue c)

/-- The check of `Ident::new` on the characters of a string: a start
character, then continue characters. -/
def identChars : List Char → Bool
  | [] => false
  | c :: cs => isIdentStart xid c && cs.all (isIdentContinue xid)

/-- The check of `Ident::new`. -/
def identOk (s : String) : Bool := identChars xid s.data

theorem isIdentContinue_of_start {c : Char} (h : isIdentStart xid c = true) :
    isIdentContinue xid c = true := by
  have := xid.continue_of_start c
  simp only [isIdentStart, isIdentContinue, Bool.or_eq_true, Bool.and_eq_true] at h ⊢
  tauto

theorem identChars_of_mem_hash {cs : List Char} (h : '#' ∈ cs) : identChars xid cs = false := by
  cases cs with
  | nil => rfl
  | cons c cs =>
    rcases List.mem_cons.mp h with rfl | h
    · rfl
    · have hc : isIdentContinue xid '#' = false := rfl
      simp only [identChars, Bool.and_eq_false_iff, List.all_eq_false]
      exact .inr ⟨'#', h, by simp [hc]⟩

theorem identChars_append_left {p cs : List Char} (hp : identChars xid p)
    (h : identChars xid cs) : identChars xid (p ++ cs) := by
  match p, cs, hp, h with
  | c :: p, d :: cs, hp, h =>
    simp only [identChars, List.cons_append, Bool.and_eq_true, List.all_append,
      List.all_cons] at hp h ⊢
    exact ⟨hp.1, hp.2, isIdentContinue_of_start xid h.1, h.2⟩

theorem identChars_append_right {q cs : List Char} (hq : q.all (isIdentContinue xid))
    (h : identChars xid cs) : identChars xid (cs ++ q) := by
  match cs, h with
  | d :: cs, h =>
    simp only [identChars, List.cons_append, Bool.and_eq_true, List.all_append] at h ⊢
    exact ⟨h.1, h.2, hq⟩

end Idents

/-- How the derive fails: with a `syn::Error` and its message, or with a panic. -/
inductive Fault where
  | synError (msg : String)
  | panic
  deriving DecidableEq, Repr

abbrev Gen := Except Fault

/-- `Option::unwrap`, which panics on `None`. -/
def unwrap {α : Type} : Option α → Gen α
  | some a => pure a
  | none => throw .panic

@[simp] theorem unwrap_some {α : Type} (a : α) : unwrap (some a) = pure a := rfl
@[simp] theorem unwrap_none {α : Type} : unwrap (none : Option α) = throw .panic := rfl

theorem bind_eq_ok {α β : Type} {x : Gen α} {f : α → Gen β} {b : β} :
    x >>= f = .ok b ↔ ∃ a, x = .ok a ∧ f a = .ok b := by
  cases x <;> simp [bind, Except.bind]

theorem mapM_mem_of_ok {α β : Type} {h : α → Gen β} {l : List α} {bs : List β}
    (hl : l.mapM h = .ok bs) {a : α} (ha : a ∈ l) : ∃ b ∈ bs, h a = .ok b := by
  induction l generalizing bs with
  | nil => cases ha
  | cons a' l ih =>
    rw [List.mapM_cons] at hl
    obtain ⟨b, hb, hl⟩ := bind_eq_ok.mp hl
    obtain ⟨bs', hbs', hl⟩ := bind_eq_ok.mp hl
    cases hl
    rcases List.mem_cons.mp ha with rfl | ha
    · exact ⟨b, List.mem_cons_self _ _, hb⟩
    · obtain ⟨b'', hb'', h''⟩ := ih hbs' ha
      exact ⟨b'', List.mem_cons_of_mem _ hb'', h''⟩

theorem mapM_map {m : Type → Type} [Monad m] [LawfulMonad m] {α β γ : Type} (g : α → β)
    (f : β → m γ) (l : List α) : (l.map g).mapM f = l.mapM (f ∘ g) := by
  induction l with
  | nil => rfl
  | cons a l ih => simp only [List.map_cons, List.mapM_cons, ih, Function.comp]

/-- `Ident::new`, which panics unless its string is an identifier. -/
def Ident.new (xid : XidTables) (s : String) : Gen Ident :=
  if identOk xid s then pure ⟨s, false⟩ else throw .panic

theorem Ident.new_of_identOk {xid : XidTables} {s : String} (h : identOk xid s = true) :
    Ident.new xid s = pure ⟨s, false⟩ := by
  simp [Ident.new, h]

theorem Ident.new_of_not_identOk {xid : XidTables} {s : String} (h : identOk xid s = false) :
    Ident.new xid s = .error .panic := by
  simp [Ident.new, h, throw, throwThe, MonadExceptOf.throw]

theorem mapM_new {α β : Type} (xid : XidTables) (s : α → String) (g : α → Ident → β)
    (l : List α) :
    l.mapM (fun a => g a <$> Ident.new xid (s a)) =
      if l.all (identOk xid ∘ s) then pure (l.map fun a => g a ⟨s a, false⟩) else .error .panic := by
  induction l with
  | nil => rfl
  | cons a l ih =>
    cases h : identOk xid (s a)
    · simp only [List.mapM_cons, Ident.new_of_not_identOk h, List.all_cons, Function.comp, h,
        Bool.false_and]
      rfl
    · simp only [List.mapM_cons, Ident.new_of_identOk h, ih, List.all_cons, Function.comp, h,
        Bool.true_and]
      split <;> rfl

inductive Lit where
  | str (value : String)
  | int (digits : String)
  | bool (value : Bool)
  | other (text : String)
  deriving DecidableEq, Repr

/-- The tokens of an attribute after its path, by the form `parse_meta` finds in
them: none (`#[path]`), a parenthesised list of nested metas (`#[path(..)]`),
`= lit` (`#[path = lit]`), or anything else. -/
inductive AttrTokens where
  | none
  | list
  | nameValue (lit : Lit)
  | malformed
  deriving DecidableEq, Repr

/-- An attribute `#[path tokens]`. Its path has at least one segment. -/
structure Attribute where
  leadingColon : Bool
  segments : List Ident
  segments_ne : segments ≠ []
  tts : AttrTokens

/-- `syn::Meta`; the nested metas of a list are never read. -/
inductive Meta where
  | word (ident : Ident)
  | list (ident : Ident)
  | nameValue (ident : Ident) (lit : Lit)
  deriving DecidableEq, Repr

def Meta.name : Meta → Ident
  | .word i | .list i | .nameValue i _ => i

/-- `Attribute::parse_meta`, with `none` for its `Err`: the path must be a single
identifier with no leading `::`. -/
def Attribute.parseMeta (attr : Attribute) : Option Meta :=
  match attr.leadingColon, attr.segments, attr.tts with
  | false, [ident], .none => some (.word ident)
  | false, [ident], .list => some (.list ident)
  | false, [ident], .nameValue lit => some (.nameValue ident lit)
  | _, _, _ => none

mutual
/-- A `syn::Type`, with the path types spelled out. The qualified self of a
path and its leading `::` are never read. -/
inductive Ty where
  | path (segments : List PathSegment)
  | other (text : String)
inductive PathSegment where
  | mk (ident : Ident) (arguments : PathArguments)
inductive PathArguments where
  | none
  | angleBracketed (args : List GenericArgument)
  | parenthesized (text : String)
inductive GenericArgument where
  | lifetime (name : String)
  | type (ty : Ty)
  | other (text : String)
end

def PathSegment.ident : PathSegment → Ident
  | .mk i _ => i

def PathSegment.arguments : PathSegment → PathArguments
  | .mk _ a => a

structure Field where
  attrs : List Attribute
  ident : Option Ident
  ty : Ty

structure NamedField where
  attrs : List Attribute
  ident : Ident
  ty : Ty

structure UnnamedField where
  attrs : List Attribute
  ty : Ty

def NamedField.toField (f : NamedField) : Field := ⟨f.attrs, some f.ident, f.ty⟩

def UnnamedField.toField (f : UnnamedField) : Field := ⟨f.attrs, none, f.ty⟩

inductive Fields where
  | named (named : List NamedField)
  | unnamed (unnamed : List UnnamedField)
  | unit

def Fields.iter : Fields → List Field
  | .named fs => fs.map NamedField.toField
  | .unnamed fs => fs.map UnnamedField.toField
  | .unit => []

/-- `syn::Data`; the variants of an enum and the fields of a union are never read. -/
inductive Data where
  | struct (fields : Fields)
  | enum
  | union

/-- `syn::DeriveInput`; visibility and generics are never read. -/
structure DeriveInput where
  attrs : List Attribute
  ident : Ident
  data : Data

end TransactDerive
