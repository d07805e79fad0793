import Rustuya.Json
import Rustuya.Protocol

/-!
# Payloads of commands

The JSON object each protocol version builds for a command. Versions up to 3.3 and the
Device22 wrapper keep all fields at the root; versions 3.4 and 3.5 nest the data points.
-/
namespace CommandPayload

open Error Json Protocol

def createBasePayload (deviceId : String) (cid : Option String) (data t : Option Value) : Map :=
  let payload : Map := []
  let payload := payload.insert "gwId" (.string deviceId)
  let payload := payload.insert "devId" (.string (cid.getD deviceId))
  let payload := payload.insert "uid" (.string deviceId)
  let payload : Map := match cid with
    | some c => payload.insert "cid" (.string c)
    | none => payload
  let payload : Map := match t with
    | some v => payload.insert "t" v
    | none => payload
  match data with
  | some d => payload.insert "dps" d
  | none => payload

def updateDpsPayload (payload : Map) (data : Option Value) : Map :=
  (payload.retain (· == "cid")).insert "dpId"
    (data.getD (.array [Value.ofNat 18, Value.ofNat 19, Value.ofNat 20]))

/-- `Status` and `HeartBeat`, the same in every version. -/
def statusPayload (payload : Map) : Map := (payload.remove "uid").remove "t"

def defaultedQuery (payload : Map) : Map :=
  let payload := payload.remove "gwId"
  match payload.get "dps" with
  | none => payload.insert "dps" (.object [("1", .null)])
  | some _ => payload

def rootExtStream : Option Value → Map
  | some (.object dataObj) =>
    let payload : Map := []
    match Map.get dataObj "reqType" with
    | some reqType => (payload.insert "reqType" reqType).extend (Map.remove dataObj "reqType")
    | none => payload.extend dataObj
  | _ => []

/-- `LanExtStream` from version 3.4 on: only the request type stays at the root. -/
def nestedExtStream : Option Value → Map
  | some (.object dataObj) =>
    let payload : Map := []
    match Map.get dataObj "reqType" with
    | some reqType =>
      (payload.insert "reqType" reqType).insert "data" (.object (Map.remove dataObj "reqType"))
    | none => payload.insert "data" (.object dataObj)
  | _ => []

def nestedControl (data : Option Value) (cid : Option String) (t : UInt64) : Map :=
  let dataObj : Map := []
  let dataObj : Map := match cid with
    | some c => (dataObj.insert "cid" (.string c)).insert "ctype" (Value.ofNat 0)
    | none => dataObj
  let dataObj : Map := match data with
    | some d => dataObj.insert "dps" d
    | none => dataObj
  let payload : Map := []
  ((payload.insert "protocol" (Value.ofNat 5)).insert "t" (.number (.posInt t))).insert "data"
    (.object dataObj)

def wrappedExtStream (data : Option Value) (cid : Option String) : Map :=
  let payload : Map := match data with
    | some (.object fields) => fields
    | _ => []
  match cid with
  | some c => (payload.insert "cid" (.string c)).insert "ctype" (Value.ofNat 0)
  | none => payload

section Generators

variable (deviceId : String) (command : CommandType) (data : Option Value) (cid : Option String)
  (t : UInt64)

def basePayload : Map :=
  createBasePayload deviceId cid data (some (.string (toString t.toNat)))

/-- Versions 3.1 to 3.3 differ only in what a query sends. -/
def generateRoot (query : Map → Map) : Map :=
  let payload := basePayload deviceId data cid t
  match command with
  | .updateDps => updateDpsPayload payload data
  | .control | .controlNew => payload.remove "gwId"
  | .dpQuery => query payload
  | .dpQueryNew => payload.remove "gwId"
  | .lanExtStream => rootExtStream data
  | .status | .heartBeat => statusPayload payload
  | _ => payload

def generateNested : Map :=
  let payload := basePayload deviceId data cid t
  match command with
  | .updateDps => updateDpsPayload payload data
  | .control | .controlNew => nestedControl data cid t
  | .lanExtStream => nestedExtStream data
  | .dpQuery | .dpQueryNew => payload.retain (fun k => k == "cid" || k == "dps")
  | .status | .heartBeat => statusPayload payload
  | _ => payload

def generatePayloadV31 : Map := generateRoot deviceId command data cid t id
def generatePayloadV32 : Map := generateRoot deviceId command data cid t defaultedQuery
def generatePayloadV33 : Map := generateRoot deviceId command data cid t id
def generatePayloadV34 : Map := generateNested deviceId command data cid t
def generatePayloadV35 : Map := generateNested deviceId command data cid t

def generatePayloadDev22 : Map :=
  let payload := basePayload deviceId data cid t
  match command with
  | .updateDps => updateDpsPayload payload data
  | .control | .controlNew => payload.remove "gwId"
  | .dpQuery => defaultedQuery payload
  | .dpQueryNew => payload.remove "gwId"
  | .lanExtStream => wrappedExtStream data cid
  | .status | .heartBeat => statusPayload payload
  | _ => payload

/-- The command code to send and the payload; no version ever returns an error. -/
def generatePayload (protocol : TuyaProtocol) : UInt32 × Value :=
  let payload := match protocol with
    | .v31 => generatePayloadV31 deviceId command data cid t
    | .v32 => generatePayloadV32 deviceId command data cid t
    | .v33 => generatePayloadV33 deviceId command data cid t
    | .v34 => generatePayloadV34 deviceId command data cid t
    | .v35 => generatePayloadV35 deviceId command data cid t
    | .dev22 _ => generatePayloadDev22 deviceId command data cid t
  (protocol.getEffectiveCommand command, .object payload)

end Generators

end CommandPayload
