import VerdictClient.Text.Quoted
import VerdictClient.Text.Utf8

namespace VerdictClient

inductive FileError where
  | notFound (path : Text)
  | isDirectory (path : Text)
  | notDirectory (path : Text)
  | nameTooLong (path : Text)
  | nullByte
  | unencodable (e : Utf8.EncodeError)
  deriving DecidableEq, Repr

def FileError.message : FileError → Text
  | notFound p => "[Errno 2] No such file or directory: " ++ p.quoted
  | isDirectory p => "[Errno 21] Is a directory: " ++ p.quoted
  | notDirectory p => "[Errno 20] Not a directory: " ++ p.quoted
  | nameTooLong p => "[Errno 36] File name too long: " ++ p.quoted
  | nullByte => "embedded null byte"
  | unencodable e => e.message

def FileError.isSystem : FileError → Bool
  | notFound _ | isDirectory _ | notDirectory _ | nameTooLong _ => true
  | nullByte | unencodable _ => false

namespace Path

def split : Text → List Text
  | [] => [[]]
  | c :: r =>
    match split r with
    | [] => [[c]]
    | p :: ps => if c = .char '/' then [] :: p :: ps else (c :: p) :: ps

def isEmptyPart (p : Text) : Bool := p.isEmpty || p == [.char '.']

def parts (path : Text) : List Text := (split path).filter fun p ↦ !isEmptyPart p

def root (path : Text) : Text :=
  match path with
  | .char '/' :: .char '/' :: c :: _ => if c = .char '/' then "/" else "//"
  | [.char '/', .char '/'] => "//"
  | .char '/' :: _ => "/"
  | _ => []

/-- The same path without empty parts and parts that name the directory they stand in. -/
def normal (path : Text) : Text :=
  let t := root path ++ Text.intercalate [.char '/'] (parts path)
  if t.isEmpty then [.char '.'] else t

/-- The directory in which all others lie, as the first part of what is told from there. -/
def top : Text := "/"

def up : Text := ".."

def parent (here : List Text) : List Text :=
  if here = [top] then here
  else if here.all (· = up) then here ++ [up]
  else here.dropLast

/-- Where a path leads, part by part, if all its parts are directories. -/
def target (path : Text) : List Text :=
  (parts path).foldl (fun here (p : Text) ↦ if p = up then parent here else here ++ [p])
    (if (root path).isEmpty then [] else [top])

/-- Halves of surrogate pairs above this one stand for single octets, which are no text. -/
def octetBase : Nat := 0xDC00

def isOctet (c : CodePoint) : Bool := octetBase + 0x80 ≤ c.val && c.val ≤ octetBase + 0xFF

def octets (path : Text) : Bytes :=
  path.flatMap fun c ↦ if isOctet c then [.ofNat (c.val - octetBase)] else Utf8.encodePoint c

def fault? (path : Text) : Option FileError :=
  match Utf8.EncodeError.find? (fun c ↦ !(c.isChar || isOctet c)) path with
  | some e => some (.unencodable e)
  | none => if path.contains (.char '\x00') then some .nullByte else none

def legible (path : Text) : Text := Utf8.decodeReplacing (octets path)

def sizeLimit : Nat := 4095

def nameLimit : Nat := 255

def inside (directory tail : Text) : Text :=
  let t := root directory ++ Text.intercalate [.char '/'] (parts directory)
  if t.isEmpty || t.getLast? = some (.char '/') then t ++ tail else t ++ "/" ++ tail

end Path

structure FileSystem where
  files : List (List Text × Bytes)
  directories : List (List Text)

namespace FileSystem

def empty : FileSystem := ⟨[], []⟩

def addDirectory (fs : FileSystem) (parts : List Text) : FileSystem :=
  { fs with directories := (List.range parts.length).map (fun i ↦ parts.take (i + 1)) ++ fs.directories }

def addFile (fs : FileSystem) (parts : List Text) (content : Bytes) : FileSystem :=
  let fs := fs.addDirectory parts.dropLast
  { fs with files := (parts, content) :: fs.files.filter (·.1 ≠ parts) }

def deleteFile (fs : FileSystem) (parts : List Text) : FileSystem :=
  { fs with files := fs.files.filter (·.1 ≠ parts) }

def content? (fs : FileSystem) (parts : List Text) : Option Bytes :=
  (fs.files.find? (·.1 = parts)).map (·.2)

inductive Place where
  | file (content : Bytes)
  | directory
  | missing
  | blocked
  | tooLong
  deriving DecidableEq

def walk (fs : FileSystem) : List Text → List Text → Place
  | _, [] => .directory
  | here, p :: ps =>
    if Path.isEmptyPart p then fs.walk here ps
    else if p = Path.up then fs.walk (Path.parent here) ps
    else if Path.nameLimit < (Path.octets p).length then .tooLong
    else
      let next := here ++ [p]
      match fs.content? next with
      | some content => if ps.isEmpty then .file content else .blocked
      | none => if fs.directories.contains next then fs.walk next ps else .missing

def find (fs : FileSystem) (path : Text) : Place :=
  if path.isEmpty then .missing
  else if Path.sizeLimit < (Path.octets path).length then .tooLong
  else fs.walk (if (Path.root path).isEmpty then [] else [Path.top]) (Path.split path)

def read (fs : FileSystem) (path : Text) : Except FileError Bytes :=
  match Path.fault? path with
  | some e => .error e
  | none =>
    match fs.find path with
    | .file content => .ok content
    | .directory => .error (.isDirectory path)
    | .missing => .error (.notFound path)
    | .blocked => .error (.notDirectory path)
    | .tooLong => .error (.nameTooLong path)

end FileSystem

end VerdictClient
