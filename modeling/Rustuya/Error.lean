import Rustuya.CheckedExecution

/-! # Error values

The error type shared by the whole crate, the text each error displays and the
numeric code reported to listeners.
-/
namespace Error

open CheckedExecution

inductive TuyaError where
  | io (text : String)
  | json (text : String)
  | decryptionFailed
  | encryptionFailed
  | invalidPayload
  | timeout
  | crcMismatch
  | hmacMismatch
  | connectionFailed
  | invalidHeader
  | decodeError (text : String)
  | offline
  | handshakeFailed
  | keyOrVersionError
  | deviceNotFound (id : String)
  deriving DecidableEq, Repr

/-- The crate's `Result`, extended with the possibility of a panic. -/
abbrev Result (α : Type) := Outcome TuyaError α

def TuyaError.display : TuyaError → String
  | .io text => "IO error: " ++ text
  | .json text => "JSON error: " ++ text
  | .decryptionFailed => "Decryption failed"
  | .encryptionFailed => "Encryption failed"
  | .invalidPayload => "Invalid payload"
  | .timeout => "Timeout waiting for device"
  | .crcMismatch => "CRC mismatch"
  | .hmacMismatch => "HMAC mismatch"
  | .connectionFailed => "Socket connection failed"
  | .invalidHeader => "Invalid header"
  | .decodeError text => "Decode error: " ++ text
  | .offline => "Device offline"
  | .handshakeFailed => "Handshake failed"
  | .keyOrVersionError => "Check device key or version (Error 914)"
  | .deviceNotFound id => "Device ID '" ++ id ++ "' not found"

def errSuccess : Nat := 0
def errJson : Nat := 900
def errConnect : Nat := 901
def errTimeout : Nat := 902
def errPayload : Nat := 904
def errOffline : Nat := 905
def errDevtype : Nat := 908
def errKeyOrVer : Nat := 914

def getErrorMessage : Nat → String
  | 0 => "Connection Successful"
  | 900 => "Invalid JSON Response from Device"
  | 901 => "Network Error: Unable to Connect"
  | 902 => "Timeout Waiting for Device"
  | 903 => "Specified Value Out of Range"
  | 904 => "Unexpected Payload from Device"
  | 905 => "Network Error: Device Unreachable"
  | 906 => "Device in Unknown State"
  | 907 => "Function Not Supported by Device"
  | 908 => "Device22 Detected: Retry Command"
  | 909 => "Missing Tuya Cloud Key and Secret"
  | 910 => "Invalid JSON Response from Cloud"
  | 911 => "Unable to Get Cloud Token"
  | 912 => "Missing Function Parameters"
  | 913 => "Error Response from Tuya Cloud"
  | 914 => "Check device key or version"
  | _ => "Unknown Error"

def TuyaError.code : TuyaError → Nat
  | .io _ => errConnect
  | .json _ => errJson
  | .decryptionFailed => errKeyOrVer
  | .encryptionFailed => errKeyOrVer
  | .invalidPayload => errPayload
  | .crcMismatch => errKeyOrVer
  | .hmacMismatch => errKeyOrVer
  | .connectionFailed => errConnect
  | .invalidHeader => errPayload
  | .decodeError _ => errPayload
  | .offline => errOffline
  | .handshakeFailed => errKeyOrVer
  | .keyOrVersionError => errKeyOrVer
  | .deviceNotFound _ => errJson
  | .timeout => errTimeout

def TuyaError.isIo : TuyaError → Bool
  | .io _ => true
  | _ => false

abbrev NotIo (e : TuyaError) : Prop := e.isIo = false

end Error
