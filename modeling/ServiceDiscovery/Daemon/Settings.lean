import ServiceDiscovery.Service
import ServiceDiscovery.Settings
import ServiceDiscovery.Toml.Decode
import ServiceDiscovery.Toml.Parser

/-!
# Settings of the daemon

A file in TOML says what the node announces, how it announces and browses, and
where its API listens. Only the port of the announced service has no default.

Reading the file fails if it cannot be read, and then if it holds no settings
(`SettingsFault`).
-/

namespace ServiceDiscovery

/-- The service type that is announced if none is given. -/
def defaultServiceType : String := "_peershare._tcp.local."

/-- The version that is published with the announced service. -/
def daemonVersion : String := "0.1.0"

/-! ## What the node announces -/

/-- What the node announces. -/
structure NodeSettings where
  /-- The name of the instance; it is made from the host name if not given. -/
  instanceName : Option String := none
  serviceType : String := defaultServiceType
  /-- The port of the application that is announced. -/
  port : UInt16
  metadata : Association String String := .empty
  deriving DecidableEq

namespace NodeSettings

/-- The table with a name bound, unless it is bound already. -/
def withDefault (table : Association String String) (name value : String) :
    Association String String :=
  if table.contains name then table else table.put name value

/-- The record that is announced from a host. Its attributes tell the version
    and the host, unless they are given. -/
def record (s : NodeSettings) (host : String) : ServiceRecord where
  instanceName := s.instanceName.getD ("peer-" ++ host)
  serviceType := s.serviceType
  port := s.port
  metadata := withDefault (withDefault s.metadata "version" daemonVersion) "node" host

/-- How the settings are decoded. -/
def format : Toml.RecordFormat NodeSettings where
  name := "NodeConfig"
  fields := [
    .of "instance" Toml.decodeText fun s v => { s with instanceName := some v },
    .of "service_type" Toml.decodeText fun s v => { s with serviceType := v },
    .needed <| .of "port" Toml.decodePort fun s v => { s with port := v },
    .of "metadata" Toml.decodeTable fun s v => { s with metadata := v }]
  blank := { port := 0 }

end NodeSettings

/-! ## The other sections -/

/-- How the multicast directory's settings are decoded. -/
def MulticastSettings.format : Toml.RecordFormat MulticastSettings where
  name := "MdnsConfig"
  fields := [
    .of "interface" Toml.decodeText fun s v => { s with interface := some v },
    .of "address" Toml.decodeText fun s v => { s with address := some v },
    .of "resolve_timeout_ms" Toml.decodeMillis fun s v => { s with resolveTimeoutMs := v },
    .of "probe_window_ms" Toml.decodeMillis fun s v => { s with probeWindowMs := v },
    .of "health_interval_ms" Toml.decodeMillis fun s v => { s with healthIntervalMs := v }]
  blank := {}

/-- How the announcer's settings are decoded. -/
def AnnouncerSettings.format : Toml.RecordFormat AnnouncerSettings where
  name := "AnnouncerConfig"
  fields := [
    .of "withdraw_timeout_ms" Toml.decodeMillis fun s v => { s with withdrawTimeoutMs := v },
    .of "reannounce_backoff_ms" Toml.decodeMillis fun s v => { s with reannounceBackoffMs := v },
    .of "reannounce_backoff_max_ms" Toml.decodeMillis fun s v =>
      { s with reannounceBackoffMaxMs := v }]
  blank := {}

/-- How the browser's settings are decoded. -/
def BrowserSettings.format : Toml.RecordFormat BrowserSettings where
  name := "BrowserConfig"
  fields := [
    .of "resolve_attempts" Toml.decodeCount fun s v => { s with resolveAttempts := v },
    .of "resolve_backoff_ms" Toml.decodeMillis fun s v => { s with resolveBackoffMs := v },
    .of "resolve_backoff_max_ms" Toml.decodeMillis fun s v => { s with resolveBackoffMaxMs := v },
    .of "resubscribe_delay_ms" Toml.decodeMillis fun s v => { s with resubscribeDelayMs := v },
    .of "resubscribe_delay_max_ms" Toml.decodeMillis fun s v =>
      { s with resubscribeDelayMaxMs := v }]
  blank := {}

/-- Where the API is served. -/
structure ApiSettings where
  listen : String := "[::]:8054"
  deriving DecidableEq, Repr, Inhabited

/-- How the API's settings are decoded. -/
def ApiSettings.format : Toml.RecordFormat ApiSettings where
  name := "ApiConfig"
  fields := [.of "listen" Toml.decodeText fun s v => { s with listen := v }]
  blank := {}

/-! ## All settings -/

/-- The settings of the daemon. -/
structure DaemonSettings where
  node : NodeSettings
  multicast : MulticastSettings := {}
  announcer : AnnouncerSettings := {}
  browser : BrowserSettings := {}
  api : ApiSettings := {}
  deriving DecidableEq

/-- What is wrong with a file of settings. -/
inductive SettingsFault
  | notFound
  | permissionDenied
  | directory
  /-- Its bytes are not UTF-8. -/
  | notText
  /-- It cannot be read for another reason. -/
  | unreadable (reason : String)
  /-- It is no TOML. -/
  | malformed
  | unfit (mismatch : Mismatch)
  deriving DecidableEq, Repr

namespace SettingsFault

/-- Whether the file could not be read. -/
def isUnread : SettingsFault → Bool
  | notFound | permissionDenied | directory | notText | unreadable _ => true
  | malformed | unfit _ => false

/-- What failed with the file at a path. -/
def message (path : String) (fault : SettingsFault) : String :=
  (if fault.isUnread then "Failed to read config file: " else "Failed to parse config file: ") ++
    path

/-- The reason in short: the kind of the fault, or what does not fit. -/
def cause : SettingsFault → String
  | notFound => "NotFound"
  | permissionDenied => "PermissionDenied"
  | directory => "IsADirectory"
  | notText => "InvalidData"
  | unreadable _ => "Other"
  | malformed => "toml"
  | unfit mismatch =>
    match mismatch with
    | .kind .. | .value .. | .missingField _ => mismatch.message
    | .length .. | .duplicateField _ | .unknownWord .. | .text _ => "toml"

/-- The reason in full, for a file that could not be read. -/
def readFailure? : SettingsFault → Option String
  | notFound => some "No such file or directory (os error 2)"
  | permissionDenied => some "Permission denied (os error 13)"
  | directory => some "Is a directory (os error 21)"
  | notText => some "stream did not contain valid UTF-8"
  | unreadable reason => some reason
  | malformed | unfit _ => none

end SettingsFault

namespace DaemonSettings

/-- How the settings are decoded. -/
def format : Toml.RecordFormat DaemonSettings where
  name := "Config"
  fields := [
    .needed <| .of "node" NodeSettings.format.decode fun s v => { s with node := v },
    .of "mdns" MulticastSettings.format.decode fun s v => { s with multicast := v },
    .of "announcer" AnnouncerSettings.format.decode fun s v => { s with announcer := v },
    .of "browser" BrowserSettings.format.decode fun s v => { s with browser := v },
    .of "api" ApiSettings.format.decode fun s v => { s with api := v }]
  blank := { node := NodeSettings.format.blank }

/-- The settings in a text. -/
def ofText (text : String) : Except SettingsFault DaemonSettings :=
  match Toml.parse? text with
  | none => .error .malformed
  | some entries => (format.decode (.table entries)).mapError .unfit

/-- The settings in the bytes of a file. -/
def ofBytes (bytes : ByteArray) : Except SettingsFault DaemonSettings :=
  match String.fromUTF8? bytes with
  | none => .error .notText
  | some text => ofText text

end DaemonSettings

end ServiceDiscovery
