import Mathlib.Data.List.Basic

/-! Typed RPC failures and the loosely typed service errors that carry them. -/

namespace Hotki

/-- Stable error codes returned by RPC methods. -/
inductive RpcErrorCode where
  | shuttingDown | missingParams | invalidType | invalidConfig | methodNotFound | engineSetConfig
  | keyNotBound | engineDispatch
  deriving DecidableEq, Repr

namespace RpcErrorCode

/-- The service-error name of a code. -/
def asStr : RpcErrorCode → String
  | shuttingDown => "ShuttingDown"
  | missingParams => "MissingParams"
  | invalidType => "InvalidType"
  | invalidConfig => "InvalidConfig"
  | methodNotFound => "MethodNotFound"
  | engineSetConfig => "EngineSetConfig"
  | keyNotBound => "KeyNotBound"
  | engineDispatch => "EngineDispatch"

/-- Parses a service-error name. -/
def fromServiceName (name : String) : Option RpcErrorCode :=
  match name with
  | "ShuttingDown" => some shuttingDown
  | "MissingParams" => some missingParams
  | "InvalidType" => some invalidType
  | "InvalidConfig" => some invalidConfig
  | "MethodNotFound" => some methodNotFound
  | "EngineSetConfig" => some engineSetConfig
  | "KeyNotBound" => some keyNotBound
  | "EngineDispatch" => some engineDispatch
  | _ => none

end RpcErrorCode

/-- Machine-readable fields attached to a failure. -/
structure RpcErrorFields where
  method : Option String := none
  expected : Option String := none
  ident : Option String := none
  deriving DecidableEq

/-- The readable and structured payload of a failure. -/
structure RpcErrorPayload where
  message : String
  fields : RpcErrorFields
  deriving DecidableEq

/-- A typed failure. -/
structure RpcFailure where
  code : RpcErrorCode
  payload : RpcErrorPayload
  deriving DecidableEq

/-- Why a service error is no failure. -/
inductive RpcErrorDecodeError where
  | unknownCode (name : String)
  | payloadType
  | missingMessage
  | fieldType (name : String)
  | fieldsType
  deriving DecidableEq

/-- A text on the wire, which need not be valid. -/
inductive WireText where
  | text (text : String)
  | malformed (bytes : List UInt8)
  deriving DecidableEq

/-- A value on the wire, its floats by their bits. -/
inductive WireValue where
  | nil
  | boolean (value : Bool)
  | integer (value : Int)
  | float32 (bits : UInt32)
  | float64 (bits : UInt64)
  | string (text : WireText)
  | binary (bytes : List UInt8)
  | array (items : List WireValue)
  | map (entries : List (WireValue × WireValue))
  | ext (kind : Int8) (bytes : List UInt8)

/-- The text of a value that is a valid string. -/
def WireValue.asStr : WireValue → Option String
  | string (.text text) => some text
  | _ => none

/-- A service error: a name and any value. -/
structure ServiceError where
  name : String
  value : WireValue

/-- A string on the wire. -/
def wireString (text : String) : WireValue := .string (.text text)

/-- Appends one optional string field to a map. -/
def pushStringField (fields : List (WireValue × WireValue)) (name : String)
    (value : Option String) : List (WireValue × WireValue) :=
  match value with
  | some value => fields ++ [(wireString name, wireString value)]
  | none => fields

/-- Encodes a failure into a service error. -/
def encodeRpcFailure (failure : RpcFailure) : ServiceError :=
  let fields := pushStringField [] "method" failure.payload.fields.method
  let fields := pushStringField fields "expected" failure.payload.fields.expected
  let fields := pushStringField fields "ident" failure.payload.fields.ident
  ⟨failure.code.asStr, .map [
    (wireString "message", wireString failure.payload.message),
    (wireString "fields", .map fields)]⟩

/-- Finds a named value in a map. -/
def mapValue (map : List (WireValue × WireValue)) (name : String) : Option WireValue :=
  (map.find? fun entry => entry.1.asStr == some name).map Prod.snd

/-- Decodes one required string field from a map. -/
def requiredString (map : List (WireValue × WireValue)) (name : String) :
    Except RpcErrorDecodeError String :=
  match mapValue map name with
  | some value =>
    match value.asStr with
    | some text => .ok text
    | none => .error (.fieldType name)
  | none => if name = "message" then .error .missingMessage else .error (.fieldType name)

/-- Decodes one optional string field from a map. -/
def optionalString (map : List (WireValue × WireValue)) (name : String) :
    Except RpcErrorDecodeError (Option String) :=
  match mapValue map name with
  | some value =>
    match value.asStr with
    | some text => .ok (some text)
    | none => .error (.fieldType name)
  | none => .ok none

/-- Decodes the structured fields of a payload. -/
def decodeFields (payload : List (WireValue × WireValue)) :
    Except RpcErrorDecodeError RpcErrorFields :=
  match mapValue payload "fields" with
  | none => .ok {}
  | some (.map fields) => do
    let method ← optionalString fields "method"
    let expected ← optionalString fields "expected"
    let ident ← optionalString fields "ident"
    return { method, expected, ident }
  | some _ => .error .fieldsType

/-- Parses a service-error name, or reports it as unknown. -/
def RpcErrorCode.fromStr (name : String) : Except RpcErrorDecodeError RpcErrorCode :=
  match fromServiceName name with
  | some code => .ok code
  | none => .error (.unknownCode name)

/-- Decodes a failure from a service error. -/
def decodeRpcFailure (service : ServiceError) : Except RpcErrorDecodeError RpcFailure := do
  let code ← RpcErrorCode.fromStr service.name
  match service.value with
  | .map payload =>
    let message ← requiredString payload "message"
    let fields ← decodeFields payload
    return ⟨code, message, fields⟩
  | _ => .error .payloadType

example : decodeRpcFailure ⟨"Other", .map []⟩ = .error (.unknownCode "Other") := rfl

end Hotki
