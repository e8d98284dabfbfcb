import Tempmail.Lib.Text

set_option autoImplicit false

namespace Tempmail.Mx

abbrev Bytes := List UInt8

abbrev Time := Int
def second : Time := 1000000000
def hour : Time := 3600 * second

-- unicode.ToLower as the code uses it: one rune at a time. Outside ASCII the
-- table is Unicode data the repository does not hold.
structure Runes where
  toLower : Char → Char
  ascii : ∀ c : Char, c.toNat < 128 → toLower c = c.toLower
  settled : ∀ c : Char, toLower (toLower c) = toLower c

def asciiRunes : Runes :=
  ⟨Char.toLower, fun _ _ => rfl, fun c => Text.lower_same c.toLower (Bool.eq_false_iff.mp (Text.lower_not_upper c))⟩

def Runes.lower (runes : Runes) (text : String) : String := Text.mapChars runes.toLower text

theorem lower_settled (runes : Runes) (text : String) : runes.lower (runes.lower text) = runes.lower text := by
  apply Text.map_chars_id
  intro c member
  rw [Runes.lower, Text.map_chars_list] at member
  obtain ⟨original, -, same⟩ := List.mem_map.mp member
  rw [← same, runes.settled]

def isSpace (c : Char) : Bool :=
  (0x09 ≤ c.toNat && c.toNat ≤ 0x0d) || c.toNat == 0x20 || c.toNat == 0x85 || c.toNat == 0xa0 ||
    c.toNat == 0x1680 || (0x2000 ≤ c.toNat && c.toNat ≤ 0x200a) || c.toNat == 0x2028 || c.toNat == 0x2029 ||
    c.toNat == 0x202f || c.toNat == 0x205f || c.toNat == 0x3000

def trimSpace (text : String) : String := Text.trim isSpace text

structure ServerConfig where
  mxPort : Int := 0
  maxMsgSizeMB : Int64 := 0
  hostname : String := ""
  maxConnections : Int := 0
  maxMessagesPerHourIP : Option Int := none
  maxMIMEParts : Option Int := none
deriving DecidableEq, Repr

structure DatabaseConfig where
  url : String := ""
  poolSize : Int := 0
deriving DecidableEq, Repr

structure TLSConfig where
  enabled : Bool := false
  certFile : String := ""
  keyFile : String := ""
deriving DecidableEq, Repr

structure ValidationConfig where
  checkDKIM : Bool := false
  checkSPF : Bool := false
  checkDMARC : Bool := false
deriving DecidableEq, Repr

structure Config where
  domains : List String := []
  database : DatabaseConfig := {}
  server : ServerConfig := {}
  tls : TLSConfig := {}
  maxEmailsPerAddress : Int := 0
  validation : ValidationConfig := {}
deriving DecidableEq, Repr

inductive LoadError where
  | unreadable
  | unparsable
  | databaseUrlRequired
  | domainRequired
deriving DecidableEq, Repr

def withDefaults (cfg : Config) : Config :=
  { cfg with
    server := { cfg.server with
      mxPort := if cfg.server.mxPort = 0 then 25 else cfg.server.mxPort
      hostname := if cfg.server.hostname = "" then "mail.tempmail.local" else cfg.server.hostname
      maxMsgSizeMB := if cfg.server.maxMsgSizeMB = 0 then 10 else cfg.server.maxMsgSizeMB }
    database := { cfg.database with
      poolSize := if cfg.database.poolSize = 0 then 10 else cfg.database.poolSize }
    maxEmailsPerAddress := if cfg.maxEmailsPerAddress = 0 then 100 else cfg.maxEmailsPerAddress
    tls := { cfg.tls with
      certFile := if cfg.tls.certFile = "" then "/config/certs/cert.pem" else cfg.tls.certFile
      keyFile := if cfg.tls.keyFile = "" then "/config/certs/key.pem" else cfg.tls.keyFile } }

-- yaml.Unmarshal decides which bytes parse; an unreadable file is none.
def loadConfig {Content : Type} (unmarshal : Content → Option Config) (data : Option Content) :
    Except LoadError Config :=
  match data with
  | none => .error .unreadable
  | some content =>
      match unmarshal content with
      | none => .error .unparsable
      | some cfg =>
          if cfg.database.url = "" then .error .databaseUrlRequired
          else if cfg.domains.length = 0 then .error .domainRequired
          else .ok (withDefaults cfg)

-- int64 arithmetic: the product wraps.
def Config.getMaxMessageSize (cfg : Config) : Int64 := cfg.server.maxMsgSizeMB * 1024 * 1024

-- The keys of Go's map[string]bool; every stored value is true.
def Config.getDomainMap (runes : Runes) (cfg : Config) : List String :=
  (cfg.domains.map (fun domain => runes.lower (trimSpace domain))).filter (· ≠ "")

def Config.getMaxMessagesPerHourIP (cfg : Config) : Int := cfg.server.maxMessagesPerHourIP.getD 300

def Config.getMaxMIMEParts (cfg : Config) : Int := cfg.server.maxMIMEParts.getD 100

theorem domain_map_member (runes : Runes) (cfg : Config) (domain : String) (listed : domain ∈ cfg.domains)
    (solid : ∀ c ∈ domain.toList, isSpace c = false) (lowered : runes.lower domain = domain) (named : domain ≠ "") :
    domain ∈ cfg.getDomainMap runes := by
  refine List.mem_filter.mpr ⟨List.mem_map.mpr ⟨domain, listed, ?_⟩, by simpa using named⟩
  rw [trimSpace, Text.trim_solid isSpace domain solid, lowered]

end Tempmail.Mx
