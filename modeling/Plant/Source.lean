import Plant.Catalog.Basic
import Plant.Settings

/-!
# Sources

Catalogs and settings as they are loaded from files, and everything that may prevent it. What there
is under each path is given by a function, `files`.
-/
namespace Plant

/-- What there is under a path. -/
inductive Source where
  | missing
  | directory
  | file (bytes : ByteArray)

namespace Source

/-- Why there is no text to read. -/
inductive Failure where
  | missing
  | directory
  | notText
deriving DecidableEq, Repr

/-- The words for a failure. -/
def Failure.message : Failure → String
  | missing => "No such file or directory (os error 2)"
  | directory => "Is a directory (os error 21)"
  | notText => "stream did not contain valid UTF-8"

/-- The text of a source. -/
def text : Source → Except Failure String
  | .missing => .error .missing
  | .directory => .error .directory
  | .file bytes => match String.fromUTF8? bytes with
    | some s => .ok s
    | none => .error .notText

end Source

/-- Why nothing is loaded. -/
inductive LoadFault where
  | unread (path : String) (failure : Source.Failure)
  | document (fault : Json.Fault)
  | catalog (fault : Catalog.Fault)

namespace LoadFault

/-- The words for a source that cannot be read. -/
def unreadMessage (path : String) (failure : Source.Failure) : String :=
  "配置文件读取失败 (path=" ++ path ++ "): " ++ failure.message

end LoadFault

/-- The text under a path. -/
def Source.load (files : String → Source) (path : String) : Except LoadFault String :=
  (files path).text.mapError (.unread path)

/-- The catalog that a text holds. -/
def Catalog.read (handle : Handle) (text : String) : Except LoadFault Catalog := do
  let document ← (Document.read text).mapError .document
  (Catalog.ofDocument handle document).mapError .catalog

/-- The catalog under a path. -/
def Catalog.load (files : String → Source) (handle : Handle) (path : String) :
    Except LoadFault Catalog := do
  Catalog.read handle (← Source.load files path)

/-- The settings under a path. -/
def Settings.load (files : String → Source) (path : String) : Except LoadFault Settings := do
  (Settings.read (← Source.load files path)).mapError .document

end Plant
