import Fieldwise.Proofs.Assignment
import Fieldwise.Proofs.Progress

/-!
# Sources that do not match

Compiling looks up the reader of a nested mapping, but does not compare what the reader returns with
the source of the nested mapping. On a record that was read this is the only way in which a source
can fail to match, so that a mapping whose readers are declared to return the records of the nested
sources meets no other source.
-/

namespace Fieldwise

open Outcome

/-- The readers of the nested mappings are declared to return the records of their sources. -/
def Mapping.Joins (m : Mapping) : Prop :=
  ∀ key field reader writer n, (key, .chained field reader writer n) ∈ m.bindings →
    reader.returns = some (.record n.source)

namespace Mapping

variable {c : Catalog} {m : Mapping} {source : Record} {fault : Fault}

/-- A nested mapping that is given a source of another kind, by a reader that is declared to return
something other than the records of its source. -/
inductive MeetsOther (m : Mapping) (source : Record) : Fault → Prop
  | intro {key field : String} {reader : Method} {writer : Option Method} {n : Mapping} {type : Ty}
      {value : Value} (member : (key, .chained field reader writer n) ∈ m.bindings)
      (returns : reader.returns = some type) (other : type ≠ .record n.source)
      (read : reader.call source [] = .ok value) :
      m.MeetsOther source (.sourceMismatch n.target.name n.source value.kind)

/-- Where nested mappings are given what they read, no source is of another kind. -/
theorem Joins.not_meetsOther (h : m.Joins) : ¬ m.MeetsOther source fault := by
  rintro ⟨member, returns, other, -⟩
  cases (h _ _ _ _ _ member).symm.trans returns
  exact other rfl

/-- Of what remains to fail, a source of another kind is met by a nested mapping. -/
theorem Residual.meetsOther (h : m.Residual c source fault)
    (mismatch : fault.kind = .sourceMismatch) : m.MeetsOther source fault := by
  cases h with
  | construction => cases mismatch
  | mismatch member returns other read _ => exact .intro member returns other read
  | computation => cases mismatch

/-- A value that is refused is not a source. -/
theorem RefusesAssignment.kind_ne (h : m.RefusesAssignment c fault) :
    fault.kind ≠ .sourceMismatch := by
  obtain ⟨key, b, -, before, value, refused⟩ := h
  cases bound : b.writer? with
  | none =>
    rw [bound] at refused
    obtain ⟨cause, -, rfl⟩ := assignField_none_eq_error_iff.mp refused
    cases cause <;> nofun
  | some w =>
    rw [bound] at refused
    obtain ⟨after, cause, -, rfl⟩ := assignField_writer_eq_error_iff.mp refused
    cases cause <;> nofun

/-- Carried out on a record that was read, in either mode, a compiled mapping whose sources are made
of properties meets a source of another kind only where a reader is declared to return one. If all
of its readers are declared to return the records of the nested sources, it meets none. -/
theorem meetsOther_of_mismatch {target : String} {defaults : FieldFilter}
    (compiled : c.compile target defaults = .ok m)
    (made : ∀ n, m.Contains n → c.MadeOfProperties n.source) {document : Json}
    (read : c.read document m.source = .ok source) (filter : FieldFilter) :
    (∀ fault, m.toTable c source.toValue filter = .error fault ∨
        m.toInstance c source.toValue filter = .error fault → fault.kind = .sourceMismatch →
          ∃ n inner, m.Reaches source n inner ∧ n.MeetsOther inner fault) ∧
      ((∀ n, m.Contains n → n.Joins) →
        (∀ fault, m.toTable c source.toValue filter = .error fault →
          fault.kind ≠ .sourceMismatch) ∧
        ∀ fault, m.toInstance c source.toValue filter = .error fault →
          fault.kind ≠ .sourceMismatch) := by
  have compiled : c.Compiled m := (Catalog.compiled_of_compile compiled).1
  obtain ⟨same, ready⟩ := ready_of_read compiled made read
  have meets : ∀ fault, m.toTable c source.toValue filter = .error fault ∨
      m.toInstance c source.toValue filter = .error fault → fault.kind = .sourceMismatch →
        ∃ n inner, m.Reaches source n inner ∧ n.MeetsOther inner fault := by
    intro fault failed mismatch
    rcases failed with failed | failed
    · obtain ⟨n, inner, reached, residual⟩ := exists_residual_of_toTable ready same failed
      exact ⟨n, inner, reached, residual.meetsOther mismatch⟩
    · obtain ⟨n, inner, reached, residual | refused⟩ :=
        exists_residual_of_toInstance ready same failed
      · exact ⟨n, inner, reached, residual.meetsOther mismatch⟩
      · exact absurd mismatch refused.kind_ne
  refine ⟨meets, fun joins ↦ ⟨fun fault failed mismatch ↦ ?_, fun fault failed mismatch ↦ ?_⟩⟩
  · obtain ⟨n, inner, reached, other⟩ := meets fault (.inl failed) mismatch
    exact (joins n reached.contains).not_meetsOther other
  · obtain ⟨n, inner, reached, other⟩ := meets fault (.inr failed) mismatch
    exact (joins n reached.contains).not_meetsOther other

end Mapping

namespace Desk

/-- A ticket has the number of the person that it is assigned to. -/
def ticket : Schema := ({ name := "Ticket" } : Schema).addProperty "assignee" .integer

/-- A contact has a name. -/
def contact : Schema := ({ name := "Contact" } : Schema).addProperty "name" .string

/-- Contacts are listed by their names. -/
def entry : Schema where
  name := "Entry"
  serializedFrom := some "Contact"
  fields := [{ name := "name", type := .string, isPublic := true }]

/-- A notice of a ticket lists the contact that the ticket is assigned to. -/
def notice : Schema where
  name := "Notice"
  serializedFrom := some "Ticket"
  fields := [
    { name := "assignee", type := .record "Entry", isPublic := true, chaining := some ⟨none, []⟩ }]

/-- Tickets, contacts, and what is shown of them. -/
def catalog : Catalog :=
  (((Catalog.empty.register ticket).register contact).register entry).register notice

/-- What entries are compiled to. -/
def toEntry : Mapping :=
  .mk entry "Contact" .all [("name", .direct "name" (.readerOf "name" .string) none)]

/-- What notices are compiled to. -/
def toNotice : Mapping :=
  .mk notice "Ticket" .all [
    ("assignee", .chained "assignee" (.readerOf "assignee" .integer) none toEntry)]

/-- The document of a ticket. -/
def document : Json := .object [("assignee", .number (.integer 7))]

/-- A ticket. -/
def ticket7 : Record := ⟨"Ticket", [("assignee", .integer 7)]⟩

/-- A number is no contact. -/
def noContact : Fault := .sourceMismatch "Entry" "Contact" "integer"

private theorem compile_notice : catalog.compile "Notice" .all = .ok toNotice := by
  cbv

private theorem madeOfProperties {n : Mapping} (h : toNotice.Contains n) :
    catalog.MadeOfProperties n.source := by
  have tickets : catalog.MadeOfProperties "Ticket" :=
    ⟨ticket, [("assignee", .integer)], by cbv, ⟨rfl, rfl⟩, by decide⟩
  have contacts : catalog.MadeOfProperties "Contact" :=
    ⟨contact, [("name", .string)], by cbv, ⟨rfl, rfl⟩, by decide⟩
  rcases Mapping.contains_iff.mp h with rfl | ⟨key, field, reader, writer, k, member, inner⟩
  · exact tickets
  · simp only [toNotice, Mapping.bindings, List.mem_singleton, Prod.mk.injEq,
      Binding.chained.injEq] at member
    obtain ⟨-, -, -, -, rfl⟩ := member
    rcases Mapping.contains_iff.mp inner with rfl | ⟨key, field, reader, writer, k, member, -⟩
    · exact contacts
    · simp [toEntry, Mapping.bindings] at member

private theorem read_document : catalog.read document "Ticket" = .ok ticket7 := by
  cbv

private theorem toTable_ticket7 :
    toNotice.toTable catalog ticket7.toValue .all = .error noContact := by
  cbv

private theorem toInstance_ticket7 :
    toNotice.toInstance catalog ticket7.toValue .all = .error noContact := by
  cbv

end Desk

namespace Mapping

/-- The boss on a card is what the mapping of labels is declared for, and the number on a ticket
meets a mapping that its reader is not declared for. -/
theorem meetsOther_of_mismatch_ticket :
    Staff.catalog.compile "Card" .all = .ok Staff.toCard ∧
      (∀ n, Staff.toCard.Contains n → n.Joins) ∧
      Staff.catalog.read Staff.documentOfAda "Person" = .ok Staff.ada ∧
      (∀ fault, Staff.toCard.toInstance Staff.catalog Staff.ada.toValue .all = .error fault →
        fault.kind ≠ .sourceMismatch) ∧
      Desk.catalog.compile "Notice" .all = .ok Desk.toNotice ∧
      (∀ n, Desk.toNotice.Contains n → Desk.catalog.MadeOfProperties n.source) ∧
      Desk.catalog.read Desk.document "Ticket" = .ok Desk.ticket7 ∧
      Desk.toNotice.toTable Desk.catalog Desk.ticket7.toValue .all = .error Desk.noContact ∧
      ∃ n inner, Desk.toNotice.Reaches Desk.ticket7 n inner ∧
        n.MeetsOther inner Desk.noContact := by
  have joins : ∀ n, Staff.toCard.Contains n → n.Joins := by
    intro n contained key field reader writer k member
    rcases Staff.eq_of_contains contained with rfl | rfl
    · simp only [Staff.toCard, bindings, List.mem_cons, List.not_mem_nil, Prod.mk.injEq,
        Binding.chained.injEq, reduceCtorEq, and_false, false_or, or_false] at member
      obtain ⟨-, -, rfl, -, rfl⟩ := member
      rfl
    · simp [Staff.toLabel, bindings] at member
  have read : Staff.catalog.read Staff.documentOfAda "Person" = .ok Staff.ada := by
    cbv
  obtain ⟨-, none⟩ :=
    meetsOther_of_mismatch Staff.compile_card Staff.madeOfProperties_of_contains read .all
  obtain ⟨meets, -⟩ := meetsOther_of_mismatch Desk.compile_notice
    (fun _ ↦ Desk.madeOfProperties) Desk.read_document .all
  exact ⟨Staff.compile_card, joins, read, (none joins).2, Desk.compile_notice,
    fun _ ↦ Desk.madeOfProperties, Desk.read_document, Desk.toTable_ticket7,
    meets Desk.noContact (.inl Desk.toTable_ticket7) rfl⟩

/-- Compiling lets a source of another kind through: the mapping of notices is compiled and its
sources are made of properties, and yet the ticket that was read meets one in both modes. -/
theorem mismatch_of_compiled_notice :
    Desk.catalog.compile "Notice" .all = .ok Desk.toNotice ∧
      (∀ n, Desk.toNotice.Contains n → Desk.catalog.MadeOfProperties n.source) ∧
      Desk.catalog.read Desk.document "Ticket" = .ok Desk.ticket7 ∧
      Desk.toNotice.toTable Desk.catalog Desk.ticket7.toValue .all = .error Desk.noContact ∧
      Desk.toNotice.toInstance Desk.catalog Desk.ticket7.toValue .all = .error Desk.noContact ∧
      Desk.noContact.kind = .sourceMismatch :=
  ⟨Desk.compile_notice, fun _ ↦ Desk.madeOfProperties, Desk.read_document, Desk.toTable_ticket7,
    Desk.toInstance_ticket7, rfl⟩

end Mapping

end Fieldwise
