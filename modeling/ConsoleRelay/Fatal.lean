import ConsoleRelay.Text.Blank
import ConsoleRelay.Text.Quoted

/-! Fatal errors: their codes and the reports that carry them. -/
namespace ConsoleRelay

inductive Fatal where
  | debugCheck
  | invalidShader
  | unableToInitialize
  | unableToCreateTexture
  | deviceLost
  deriving DecidableEq, Repr

namespace Fatal

def code : Fatal → Int32
  | .debugCheck => 0
  | .invalidShader => 1
  | .unableToInitialize => 2
  | .unableToCreateTexture => 3
  | .deviceLost => 4

def name : Fatal → String
  | .debugCheck => "DebugCheck"
  | .invalidShader => "InvalidShader"
  | .unableToInitialize => "UnableToInitialize"
  | .unableToCreateTexture => "UnableToCreateTexture"
  | .deviceLost => "DeviceLost"

def all : List Fatal :=
  [.debugCheck, .invalidShader, .unableToInitialize, .unableToCreateTexture, .deviceLost]

def ofCode? (raw : Int32) : Option Fatal := all.find? fun f => f.code == raw

end Fatal

/-- A fatal notification as it arrived; a missing string was a null pointer. -/
structure FatalReport where
  file : Option Bytes
  line : UInt16
  code : Int32
  message : Option Bytes
  deriving DecidableEq, Repr

namespace FatalReport

def fatal? (r : FatalReport) : Option Fatal := Fatal.ofCode? r.code

/-- The file as text, empty if there was none. -/
def fileText (r : FatalReport) : Text := Utf8.lossy (r.file.getD [])

/-- The message as text, without its trailing line break. -/
def messageText (r : FatalReport) : Text :=
  ((r.message.map LossyText.ofBytes).getD (.borrowed [])).trimEnd.text

/-- The name of the error, or its number if it has no name. -/
def kindText (r : FatalReport) : Text :=
  match r.fatal? with
  | some f => f.name.toList
  | none => "Unknown(".toList ++ signedDecimal r.code.toInt ++ ")".toList

def display (r : FatalReport) : Text :=
  r.fileText ++ "(".toList ++ decimal r.line.toNat ++ "): ".toList ++ r.kindText ++ ": ".toList ++
    r.messageText

def describe (r : FatalReport) : Text :=
  Quoted.record "FatalReport"
    [("file_path", Quoted.optional Quoted.raw r.file),
     ("line", decimal r.line.toNat),
     ("code", signedDecimal r.code.toInt),
     ("message", Quoted.optional Quoted.raw r.message)]

end FatalReport

end ConsoleRelay
