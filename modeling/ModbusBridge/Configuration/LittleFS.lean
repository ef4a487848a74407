import Mathlib.Logic.Function.Basic
import ModbusBridge.Text

/-!
# The file system

Files and directories by their paths. Opening a file for writing truncates it; what is written
afterwards may be cut short when the flash is full.
-/

namespace ModbusBridge

/-- The content of the flash. -/
structure LittleFS where
  /-- What `begin` returns. -/
  mounted : Bool
  files : Bytes → Option Bytes
  directories : Bytes → Bool

/-- What opening a file and writing it comes to: it may fail to open, or take some bytes. -/
abbrev Room := Option Nat

namespace LittleFS

/-- `exists`. -/
def fileExists (fs : LittleFS) (path : Bytes) : Bool :=
  (fs.files path).isSome || fs.directories path

/-- `mkdir`. -/
def mkdir (fs : LittleFS) (path : Bytes) : LittleFS :=
  { fs with directories := Function.update fs.directories path true }

/-- A file with new content. -/
def put (fs : LittleFS) (path content : Bytes) : LittleFS :=
  { fs with files := Function.update fs.files path (some content) }

/-- `remove`. -/
def remove (fs : LittleFS) (path : Bytes) : LittleFS :=
  { fs with files := Function.update fs.files path none }

variable (fs : LittleFS) (path content : Bytes)

@[simp] theorem files_put_self : (fs.put path content).files path = some content :=
  Function.update_self ..

@[simp] theorem files_remove_self : (fs.remove path).files path = none := Function.update_self ..

theorem files_put_of_ne {other : Bytes} (different : other ≠ path) :
    (fs.put path content).files other = fs.files other := Function.update_of_ne different ..

theorem files_remove_of_ne {other : Bytes} (different : other ≠ path) :
    (fs.remove path).files other = fs.files other := Function.update_of_ne different ..

theorem fileExists_put_self : (fs.put path content).fileExists path = true := by
  simp [fileExists]

/-- A new file takes none away. -/
theorem fileExists_put {fs : LittleFS} {other : Bytes} (there : fs.fileExists other = true) :
    (fs.put path content).fileExists other = true := by
  by_cases same : other = path
  · subst same
    exact fileExists_put_self ..
  · simpa [fileExists, put, Function.update_of_ne same] using there

end LittleFS

end ModbusBridge
