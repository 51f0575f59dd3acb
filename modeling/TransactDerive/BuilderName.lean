import TransactDerive.Congruence

/-! # The builder's name

`extract_builder_name` returns `None` for a `builder_name` attribute of any form
other than `#[builder_name = "..."]`, and `generate_builder_name` goes on to the
next attribute. A malformed directive is skipped, never reported: the builder
is named by the first well-formed one, or `<Name>Builder`.
-/

namespace TransactDerive

/-- A `builder_name` attribute that is not `#[builder_name = "..."]`. -/
def malformedBuilderName (attr : Attribute) : Bool :=
  attr.startsWith ⟨"builder_name", false⟩ && (builderNameLit attr).isNone

variable {xid : XidTables}

theorem malformedBuilderName_reads_nothing {a : Attribute} (h : (!malformedBuilderName a) = false) :
    builderNameLit a = none ∧ a.startsWith ⟨"gen_build_impl", false⟩ = false := by
  simp only [malformedBuilderName, Bool.not_eq_false', Bool.and_eq_true,
    Option.isNone_iff_eq_none] at h
  refine ⟨h.2, ?_⟩
  simp only [Attribute.startsWith, beq_iff_eq] at h ⊢
  simp [h.1]

theorem generateBuilderStruct_name {d : DeriveInput} {b : BuilderStruct}
    (h : generateBuilderStruct xid d = .ok b) : b.name = ⟨builderNameString d, false⟩ := by
  rw [generateBuilderStruct, generateBuilderName_eq] at h
  cases hn : identOk xid (builderNameString d)
  · rw [Ident.new_of_not_identOk hn] at h
    cases h
  · rw [Ident.new_of_identOk hn, pure_bind] at h
    simp only [bind, Except.bind, pure, Except.pure] at h
    repeat' split at h
    all_goals cases h <;> rfl

/-- A `builder_name` attribute of any form other than `#[builder_name = "..."]`
(bare, a list, a literal that is no string) is skipped: without it the expansion
is the same. A successful expansion names the builder by the string of the
first well-formed `#[builder_name = "..."]`, or `<Name>Builder` when there is
none. -/
theorem malformed_builder_name_skipped (d : DeriveInput) :
    generateBuilderMacro xid d =
      generateBuilderMacro xid { d with attrs := d.attrs.filter (!malformedBuilderName ·) } ∧
    ∀ e, generateBuilderMacro xid d = .ok e →
      e.builderStruct.name =
        ⟨(d.attrs.findSome? builderNameLit).getD (d.ident.toString ++ "Builder"), false⟩ := by
  refine ⟨generateBuilderMacro_congr_view rfl ?_
    (hasGenBuildFnAttr_filter d.attrs fun _ h => (malformedBuilderName_reads_nothing h).2).symm rfl,
    fun e h => ?_⟩
  · simp only [builderNameString,
      findSome?_builderNameLit_filter d.attrs fun _ h => (malformedBuilderName_reads_nothing h).1]
  · obtain ⟨s, -, h⟩ := bind_eq_ok.mp h
    obtain ⟨b, hb, h⟩ := bind_eq_ok.mp h
    cases h
    exact generateBuilderStruct_name hb

theorem org_malformed_names_skipped :
    ∃ (xid : XidTables) (e : Expansion),
      generateBuilderMacro xid
        ⟨[.word "builder_name", .nameValue "builder_name" (.int "5")] ++ orgInput.attrs,
          ⟨"Organization", false⟩, .struct (.named orgFields)⟩ = .ok e ∧
      e.builderStruct.name = ⟨"OrgBuilder", false⟩ := by
  let xid : XidTables := ⟨fun _ => false, fun _ => false, fun _ h => h⟩
  obtain ⟨-, hname⟩ := @malformed_builder_name_skipped xid
    ⟨[.word "builder_name", .nameValue "builder_name" (.int "5")] ++ orgInput.attrs,
      ⟨"Organization", false⟩, .struct (.named orgFields)⟩
  exact ⟨xid, _, rfl, hname _ rfl⟩

/-- A bare `#[builder_name]` is no error: `struct Foo { x: u8 }` gets the
default builder name `FooBuilder`. -/
theorem bare_builder_name_falls_back :
    ∃ (xid : XidTables) (e : Expansion),
      generateBuilderMacro xid ⟨[.word "builder_name"], ⟨"Foo", false⟩,
        .struct (.named [⟨[], ⟨"x", false⟩, .named "u8" []⟩])⟩ = .ok e ∧
      e.builderStruct.name = ⟨"FooBuilder", false⟩ :=
  ⟨⟨fun _ => false, fun _ => false, fun _ h => h⟩, _, rfl, rfl⟩

end TransactDerive
