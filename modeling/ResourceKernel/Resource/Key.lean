import ResourceKernel.Name.Codec
import ResourceKernel.Resource.Identity
import ResourceKernel.Text.Base64

/-!
# Keys of resources

A key is the form in which a store keeps an identity: template, kind of the name, and the bytes
of the name in base64. Keys read from storage are decoded when someone asks for the identity, and
remember it. What a key remembers has no part in comparing keys.
-/

namespace ResourceKernel

open Text

structure StoredKey where
  templateId : String
  nameType : String
  nameValue : String
  deriving DecidableEq, Repr, Inhabited, Hashable

namespace StoredKey

def null : StoredKey := ⟨"", "", ""⟩

def isNull (k : StoredKey) : Bool :=
  k.templateId.isEmpty && k.nameType.isEmpty && k.nameValue.isEmpty

instance : Ord StoredKey :=
  ⟨fun a b ↦ ((compare a.templateId b.templateId).then (compare a.nameType b.nameType)).then
    (compare a.nameValue b.nameValue)⟩

def display (k : StoredKey) : String :=
  if k.isNull then "null" else k.templateId ++ "/" ++ k.nameType ++ "/" ++ k.nameValue

open Json (Value)

def toJson (k : StoredKey) : Value :=
  .fields [("template_id", .text k.templateId), ("name_type", .text k.nameType),
    ("name_value", .text k.nameValue)]

def ofJson? (v : Value) : Option StoredKey := do
  let r ← Record.of? ["template_id", "name_type", "name_value"] v
  return ⟨← r.required? "template_id" Value.text?, ← r.required? "name_type" Value.text?,
    ← r.required? "name_value" Value.text?⟩

end StoredKey

/-- Why an identity has no key, or a key no identity. -/
inductive KeyFault
  | noTemplate
  | notBase64
  | name (fault : NameFault)
  /-- A fault in the words of whoever reports it. -/
  | note (text : String)
  deriving DecidableEq, Repr

def KeyFault.message : KeyFault → String
  | .noTemplate => "key has no template id"
  | .notBase64 => "invalid name encoding"
  | .name fault => fault.message
  | .note text => text

/-- A key that may remember the identity it stands for. -/
structure ResourceKey where
  stored : StoredKey
  decoded : Option ResourceId
  deriving Repr, Inhabited

namespace ResourceKey

def ofStored (stored : StoredKey) : ResourceKey := ⟨stored, none⟩

def null : ResourceKey := ofStored .null

/-- The key of an identity. There is none without a template, or if the name cannot be
written. -/
def encode (id : ResourceId) : Except KeyFault ResourceKey :=
  if id.templateId.isEmpty then .error .noTemplate
  else
    match id.name.toBytes with
    | .error fault => .error (.name fault)
    | .ok bytes => .ok ⟨⟨id.templateId, id.name.kind.tag, Base64.encode bytes⟩, some id⟩

/-- The identity that the fields of a key stand for. -/
def identityOf (k : StoredKey) : Except KeyFault ResourceId :=
  if k.templateId.isEmpty then .error .noTemplate
  else
    match Base64.decode k.nameValue with
    | none => .error .notBase64
    | some bytes =>
        match Name.ofBytes bytes with
        | .error fault => .error (.name fault)
        | .ok name => .ok ⟨name, k.templateId⟩

/-- The identity behind the key, none for the null key, and the key that remembers it. -/
def resourceId (k : ResourceKey) : Except KeyFault (Option ResourceId × ResourceKey) :=
  if k.stored.isNull then .ok (none, k)
  else
    match k.decoded with
    | some id => .ok (some id, k)
    | none =>
        match identityOf k.stored with
        | .error fault => .error fault
        | .ok id => .ok (some id, { k with decoded := some id })

def decode (k : ResourceKey) : Except KeyFault (Option ResourceId) :=
  k.resourceId.map Prod.fst

/-- The key once somebody has asked it for its identity. -/
def asked (k : ResourceKey) : ResourceKey :=
  match k.resourceId with
  | .error _ => k
  | .ok (_, after) => after

/-- The kind of the name that the key remembers, or else the kind it states. -/
def effectiveType (k : ResourceKey) : String :=
  match k.decoded with
  | some id => id.name.kind.tag
  | none => k.stored.nameType

/-- The key that states the kind its name really has. -/
def healed (k : ResourceKey) : Except KeyFault ResourceKey :=
  match k.resourceId with
  | .error fault => .error fault
  | .ok (none, _) => .ok null
  | .ok (some id, _) => .ok ⟨{ k.stored with nameType := id.name.kind.tag }, some id⟩

instance : BEq ResourceKey := ⟨fun a b ↦ a.stored == b.stored⟩

instance : Ord ResourceKey := ⟨fun a b ↦ compare a.stored b.stored⟩

instance : Hashable ResourceKey := ⟨fun k ↦ hash k.stored⟩

end ResourceKey

def ResourceId.key (id : ResourceId) : Except KeyFault StoredKey :=
  (ResourceKey.encode id).map ResourceKey.stored

end ResourceKernel
