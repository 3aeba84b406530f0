import ResourceKernel.Library.Basic
import ResourceKernel.Library.Draft

/-!
# Loading a library

Loading starts from root handler types and follows the references of each to the handler types of
its attachments and members. Every handler type on the way is drafted once and resolved once; its
references become the template identifiers of the drafts they lead to.
-/

namespace ResourceKernel

/-- Drafts by handler type, the handler type that owns each template identifier, and the drafts
that still have to be resolved, next one first. -/
structure Loader where
  drafts : Table HandlerId Draft
  owners : Table TemplateId HandlerId
  pending : List HandlerId
  resolved : Table HandlerId Template

namespace Loader

def start : Loader := ⟨∅, ∅, [], ∅⟩

/-- Keeps a draft. No two drafts have one identifier. -/
def keep (s : Loader) (d : Draft) : Except TemplateFault Loader :=
  match s.owners.find? d.id with
  | some owner => .error (.sharedId d.id owner d.handler)
  | none =>
      .ok { s with drafts := s.drafts.insert d.handler d, owners := s.owners.insert d.id d.handler }

def draft (catalog : HandlerCatalog) (s : Loader) (handler : HandlerId) :
    Except TemplateFault Loader :=
  if s.drafts.contains handler then .ok s
  else
    match catalog.find? handler with
    | none => .error (.unknownHandler handler)
    | some c =>
        match Draft.ofClass c with
        | .error fault => .error fault
        | .ok d => s.keep d

/-- The template identifier of a handler type that another refers to. A handler type met for the
first time is drafted and will be resolved next. -/
def refer (catalog : HandlerCatalog) (s : Loader) (handler : HandlerId) :
    Except TemplateFault (TemplateId × Loader) :=
  let registered : Except TemplateFault Loader :=
    if s.drafts.contains handler then .ok s
    else (s.draft catalog handler).map fun s ↦ { s with pending := handler :: s.pending }
  match registered with
  | .error fault => .error fault
  | .ok s =>
      match s.drafts.find? handler with
      | some d => .ok (d.id, s)
      | none => .error (.unresolved handler)

def referSlots (catalog : HandlerCatalog) (template : TemplateId) :
    Loader → List DraftSlot → Except (Told TemplateFault) (List Slot × Loader)
  | s, [] => .ok ([], s)
  | s, slot :: rest =>
      match s.refer catalog slot.handler with
      | .error fault =>
          .error ((Told.of fault).within s!"attachment {slot.id} of template {template}")
      | .ok (target, s) =>
          match referSlots catalog template s rest with
          | .error cause => .error cause
          | .ok (slots, s) => .ok (⟨slot.id, slot.path, target, slot.predicate⟩ :: slots, s)

def referMembers (catalog : HandlerCatalog) (s : Loader) (d : Draft) :
    Except (Told TemplateFault) (MemberSettings × Loader) :=
  match d.memberHandler with
  | none => .error (.of (.noMemberHandler d.id))
  | some handler =>
      match s.refer catalog handler with
      | .error fault => .error ((Told.of fault).within ("member handler of template " ++ d.id))
      | .ok (target, s) => .ok (⟨target, d.memberPath⟩, s)

def containerForm (d : Draft) (members : MemberSettings) : Except TemplateFault TemplateForm :=
  match d.kind with
  | .resource => .ok .resource
  | .container => .ok (.container members)
  | .basicContainer => .ok (.basicContainer members)
  | .directContainer =>
      match d.membership with
      | none => .error (.noUri .membershipPredicate d.id)
      | some m => .ok (.directContainer members m)
  | .indirectContainer =>
      match d.membership with
      | none => .error (.noUri .membershipPredicate d.id)
      | some m =>
          match d.insertedContentRelation with
          | none => .error (.noUri .insertedContentRelation d.id)
          | some u => .ok (.indirectContainer members m u)

def form (catalog : HandlerCatalog) (s : Loader) (d : Draft) :
    Except (Told TemplateFault) (TemplateForm × Loader) :=
  if d.kind = .resource then .ok (.resource, s)
  else
    match s.referMembers catalog d with
    | .error cause => .error cause
    | .ok (members, s) =>
        match containerForm d members with
        | .error fault => .error (.of fault)
        | .ok form => .ok (form, s)

def resolve (catalog : HandlerCatalog) (s : Loader) (handler : HandlerId) :
    Except (Told TemplateFault) (Template × Loader) :=
  match s.drafts.find? handler with
  | none => .error (.of (.unregistered handler))
  | some d =>
      match referSlots catalog d.id s d.slots with
      | .error cause => .error cause
      | .ok (slots, s) =>
          match s.form catalog d with
          | .error cause => .error cause
          | .ok (form, s) => .ok (⟨d.id, d.handler, d.name, d.description, slots, form⟩, s)

/-- Resolves what is pending. Every round resolves another handler type of the catalog, so the
number of these is enough `fuel`. -/
def resolvePending (catalog : HandlerCatalog) :
    (fuel : Nat) → Loader → Except (Told TemplateFault) Loader
  | fuel, s =>
      match s.pending, fuel with
      | [], _ => .ok s
      | handler :: _, 0 => .error (.of (.unresolved handler))
      | handler :: rest, fuel + 1 =>
          let s := { s with pending := rest }
          if s.resolved.contains handler then resolvePending catalog fuel s
          else
            match s.resolve catalog handler with
            | .error cause => .error cause
            | .ok (t, s) =>
                resolvePending catalog fuel { s with resolved := s.resolved.insert handler t }

/-- Drafts the roots in order. The greatest drafted handler type will be resolved first. -/
def draftRoots (catalog : HandlerCatalog) (roots : List HandlerId) : Except TemplateFault Loader :=
  (roots.foldlM (draft catalog) start).map fun s ↦ { s with pending := s.drafts.keys.reverse }

def library (s : Loader) : TemplateLibrary :=
  s.resolved.entries.foldl (fun l e ↦ l.insert e.1 e.2) .empty

end Loader

namespace TemplateLibrary

/-- The library of the roots and of all handler types that they lead to. -/
def load (catalog : HandlerCatalog) (roots : List HandlerId) :
    Except (Told TemplateFault) TemplateLibrary :=
  match Loader.draftRoots catalog roots with
  | .error fault => .error (.of fault)
  | .ok s =>
      (Loader.resolvePending catalog catalog.classes.size s).map Loader.library

end TemplateLibrary

end ResourceKernel
