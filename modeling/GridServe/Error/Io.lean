namespace GridServe

inductive IoKind where
  | notFound | permissionDenied | alreadyExists | notADirectory | isADirectory
  | directoryNotEmpty | invalidInput | invalidData | invalidFilename
  | addrInUse | addrNotAvailable | other
  deriving Repr, DecidableEq, Inhabited

def IoKind.description : IoKind → String
  | .notFound => "entity not found"
  | .permissionDenied => "permission denied"
  | .alreadyExists => "entity already exists"
  | .notADirectory => "not a directory"
  | .isADirectory => "is a directory"
  | .directoryNotEmpty => "directory not empty"
  | .invalidInput => "invalid input parameter"
  | .invalidData => "invalid data"
  | .invalidFilename => "invalid filename"
  | .addrInUse => "address in use"
  | .addrNotAvailable => "address not available"
  | .other => "other error"

inductive IoError where
  | os (code : Nat)
  | custom (kind : IoKind) (message : String)
  deriving Repr, DecidableEq, Inhabited

namespace IoError

def noSuchFile : IoError := .os 2
def permissionDenied : IoError := .os 13
def fileExists : IoError := .os 17
def notADirectory : IoError := .os 20
def isADirectory : IoError := .os 21

def osDescription : Nat → String
  | 1 => "Operation not permitted"
  | 2 => "No such file or directory"
  | 13 => "Permission denied"
  | 17 => "File exists"
  | 19 => "No such device"
  | 20 => "Not a directory"
  | 21 => "Is a directory"
  | 22 => "Invalid argument"
  | 36 => "File name too long"
  | 39 => "Directory not empty"
  | 98 => "Address already in use"
  | 99 => "Cannot assign requested address"
  | n => "Unknown error " ++ toString n

def osKind : Nat → IoKind
  | 1 | 13 => .permissionDenied
  | 2 => .notFound
  | 17 => .alreadyExists
  | 20 => .notADirectory
  | 21 => .isADirectory
  | 22 => .invalidInput
  | 36 => .invalidFilename
  | 39 => .directoryNotEmpty
  | 98 => .addrInUse
  | 99 => .addrNotAvailable
  | _ => .other

def kind : IoError → IoKind
  | .os code => osKind code
  | .custom kind _ => kind

def message : IoError → String
  | .os code => osDescription code ++ " (os error " ++ toString code ++ ")"
  | .custom _ message => message

end IoError

end GridServe
