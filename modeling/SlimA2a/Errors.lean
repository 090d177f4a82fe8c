import SlimA2a.Protobuf

/-! # Errors

The exceptions the package meets and the error it answers with.

* `A2AError`: an error of the A2A protocol.  Its class decides which code the caller sees.
* `RpcError`: the error a SlimRPC call ends with.  `details` carries a serialized
  `google.rpc.Status`, whose details are packed messages (`Any`), here an `ErrorInfo`.
* `PyException`: what a coroutine can raise.  `except Exception` catches everything but the
  constructor `base`, which stands for the exceptions that derive from `BaseException` only.

The messages of `google.rpc` are serialized by the wire format of `Protobuf`, and each comes with
the round trip of its codec. -/

namespace SlimA2a

/-- The classes of A2A errors that the package names, and any other class. -/
inductive A2AErrorType where
  | invalidRequestError
  | methodNotFoundError
  | invalidParamsError
  | internalError
  | taskNotFoundError
  | taskNotCancelableError
  | pushNotificationNotSupportedError
  | unsupportedOperationError
  | contentTypeNotSupportedError
  | invalidAgentResponseError
  | extendedAgentCardNotConfiguredError
  | extensionSupportRequiredError
  | versionNotSupportedError
  | other (name : String)
deriving DecidableEq

/-- `type(error).__name__` -/
def A2AErrorType.name : A2AErrorType → String
  | invalidRequestError => "InvalidRequestError"
  | methodNotFoundError => "MethodNotFoundError"
  | invalidParamsError => "InvalidParamsError"
  | internalError => "InternalError"
  | taskNotFoundError => "TaskNotFoundError"
  | taskNotCancelableError => "TaskNotCancelableError"
  | pushNotificationNotSupportedError => "PushNotificationNotSupportedError"
  | unsupportedOperationError => "UnsupportedOperationError"
  | contentTypeNotSupportedError => "ContentTypeNotSupportedError"
  | invalidAgentResponseError => "InvalidAgentResponseError"
  | extendedAgentCardNotConfiguredError => "ExtendedAgentCardNotConfiguredError"
  | extensionSupportRequiredError => "ExtensionSupportRequiredError"
  | versionNotSupportedError => "VersionNotSupportedError"
  | other name => name

/-- An A2A error: its class and its message. -/
structure A2AError where
  type : A2AErrorType
  message : String
deriving DecidableEq

/-- `slim_bindings.RpcCode` -/
inductive RpcCode where
  | invalidArgument
  | notFound
  | internal
  | failedPrecondition
  | unimplemented
  | unknown
  | other (name : String)
deriving DecidableEq

/-- `slim_bindings.RpcError.Rpc` -/
structure RpcError where
  code : RpcCode
  message : String
  details : Option Bytes
deriving DecidableEq

/-- The classes of other exceptions that derive from `Exception`. -/
inductive ExcType where
  | valueError
  | typeError
  | notImplementedError
  | decodeError
  | other (name : String)
deriving DecidableEq

/-- The classes that derive from `BaseException` but not from `Exception`. -/
inductive BaseExcType where
  | cancelledError
  | generatorExit
  | keyboardInterrupt
  | systemExit
deriving DecidableEq

/-- What a coroutine can raise. -/
inductive PyException where
  | a2a (e : A2AError)
  | rpc (e : RpcError)
  | exception (type : ExcType) (message : String)
  | base (type : BaseExcType)
deriving DecidableEq

/-! ### Serialization -/

/-- A message type with its codec. -/
class Proto (α : Type) where
  serializeToString : α → Bytes
  fromString : Bytes → Except PyException α
  fromString_serializeToString : ∀ a, fromString (serializeToString a) = .ok a

/-- Different messages have different bytes. -/
theorem Proto.serializeToString_injective {α : Type} [Proto α] :
    Function.Injective (Proto.serializeToString : α → Bytes) := by
  intro a b h
  have hread := congrArg (Proto.fromString : Bytes → Except PyException α) h
  rw [Proto.fromString_serializeToString, Proto.fromString_serializeToString] at hread
  exact Except.ok.inj hread

/-- Read a message from its wire fields; input that does not parse raises `DecodeError`. -/
def parseFields {α : Type} (read : List Protobuf.Field → Option α) (bs : Bytes) :
    Except PyException α :=
  match (Protobuf.decode bs).bind read with
  | some a => .ok a
  | none => .error (.exception .decodeError "Error parsing message")

theorem parseFields_encode {α : Type} {read : List Protobuf.Field → Option α}
    {fs : List Protobuf.Field} {a : α} (h : read fs = some a) :
    parseFields read (Protobuf.encode fs) = .ok a := by
  unfold parseFields
  rw [Protobuf.decode_encode, Option.bind_some, h]

/-- Embedded messages are read back one by one. -/
theorem mapM_fromString {α : Type} [Proto α] (as : List α) :
    (as.map Proto.serializeToString).mapM
      (fun bs => (Proto.fromString bs : Except PyException α).toOption) = some as := by
  induction as with
  | nil => rfl
  | cons a as ih =>
      rw [List.map_cons, List.mapM_cons, ih, Proto.fromString_serializeToString]
      rfl

/-! ### The messages of `google.rpc` -/

/-- `google.rpc.ErrorInfo` -/
structure ErrorInfo where
  reason : String
  domain : String
deriving DecidableEq

/-- `google.protobuf.Any` -/
structure Any where
  typeUrl : String
  value : Bytes
deriving DecidableEq

/-- `google.rpc.Status` -/
structure Status where
  code : ℕ
  message : String
  details : List Any
deriving DecidableEq

open Protobuf

namespace ErrorInfo

def fields (m : ErrorInfo) : List Field := writeString 1 m.reason ++ writeString 2 m.domain

def read (fs : List Field) : Option ErrorInfo := do
  let reason ← stringField 1 fs
  let domain ← stringField 2 fs
  some ⟨reason, domain⟩

theorem read_fields (m : ErrorInfo) : read m.fields = some m := by
  have h₁ : stringField 1 m.fields = some m.reason :=
    stringField_writeString 1 m.reason [] _ rfl (lenFields_writeString_ne (by omega) _)
  have h₂ : stringField 2 m.fields = some m.domain := by
    have h := stringField_writeString 2 m.domain (writeString 1 m.reason) []
      (lenFields_writeString_ne (by omega) _) rfl
    rwa [List.append_nil] at h
  simp [read, h₁, h₂]

instance : Proto ErrorInfo where
  serializeToString m := encode m.fields
  fromString := parseFields read
  fromString_serializeToString m := parseFields_encode (read_fields m)

end ErrorInfo

namespace Any

def fields (m : Any) : List Field := writeString 1 m.typeUrl ++ [(2, .len m.value)]

def read (fs : List Field) : Option Any := do
  let typeUrl ← stringField 1 fs
  some ⟨typeUrl, (lenFields 2 fs).getLastD []⟩

theorem read_fields (m : Any) : read m.fields = some m := by
  have h₁ : stringField 1 m.fields = some m.typeUrl :=
    stringField_writeString 1 m.typeUrl [] _ rfl rfl
  have h₂ : lenFields 2 m.fields = [m.value] := by
    rw [fields, lenFields_append, lenFields_writeString_ne (by omega)]
    rfl
  simp [read, h₁, h₂]

instance : Proto Any where
  serializeToString m := encode m.fields
  fromString := parseFields read
  fromString_serializeToString m := parseFields_encode (read_fields m)

/-- `detail.Pack(info)` -/
def pack (info : ErrorInfo) : Any :=
  ⟨"type.googleapis.com/google.rpc.ErrorInfo", Proto.serializeToString info⟩

end Any

namespace Status

def fields (m : Status) : List Field :=
  writeVarint 1 m.code ++ (writeString 2 m.message ++
    m.details.map fun d => (3, .len (Proto.serializeToString d)))

def read (fs : List Field) : Option Status := do
  let message ← stringField 2 fs
  let details ← (lenFields 3 fs).mapM fun bs => (Proto.fromString bs).toOption
  some ⟨varintField 1 fs, message, details⟩

theorem read_fields (m : Status) : read m.fields = some m := by
  have hmap : m.details.map (fun d => ((3, .len (Proto.serializeToString d)) : Field)) =
      (m.details.map Proto.serializeToString).map fun bs => (3, .len bs) := by
    rw [List.map_map]
    rfl
  have h₁ : varintField 1 m.fields = m.code := by
    apply varintField_writeVarint
    rw [hmap, varintFields, List.filterMap_append, ← varintFields, ← varintFields,
      varintFields_writeString, varintFields_map_len, List.append_nil]
  have h₂ : stringField 2 m.fields = some m.message := by
    rw [fields, ← List.append_assoc, hmap]
    exact stringField_writeString 2 m.message _ _ (lenFields_writeVarint _ _ _)
      (lenFields_map_len_ne (by omega) _)
  have h₃ : lenFields 3 m.fields = m.details.map Proto.serializeToString := by
    rw [fields, lenFields_append, lenFields_append, lenFields_writeVarint,
      lenFields_writeString_ne (by omega), hmap, lenFields_map_len]
    rfl
  have hdetails := mapM_fromString m.details
  simp [read, h₁, h₂, h₃, hdetails]

instance : Proto Status where
  serializeToString m := encode m.fields
  fromString := parseFields read
  fromString_serializeToString m := parseFields_encode (read_fields m)

end Status
end SlimA2a
