/-!
# File Systems

Levels are read from files and exports are written to files, always as a whole. What a path means,
which files can be opened and what a write that fails leaves behind is up to the system, which is
not part of this library: it is known by its two operations and by what can be relied on.

## Main definitions

- `FileSystem`: reading and writing whole files by path
- `LawfulFileSystem`: what is written without an error is there to be read
- `FileError`: what the system says when it does not read or write
-/

namespace TileLevel

/-- Why a path cannot be read or written, in the words of the system. -/
structure FileError where
  message : String
deriving DecidableEq, Repr

/-- The files of a system. -/
class FileSystem (Files : Type) where
  read : Files → String → Except FileError ByteArray
  /-- Writes a file, in place of one that is there, and gives the files as they are then. A write that
      fails may have changed them, too. -/
  write : Files → String → ByteArray → Except FileError Unit × Files

/-- Systems in which a file that was written without an error holds what was written. -/
class LawfulFileSystem (Files : Type) [FileSystem Files] : Prop where
  read_write : ∀ {files after : Files} {path : String} {bytes : ByteArray},
    FileSystem.write files path bytes = (.ok (), after) → FileSystem.read after path = .ok bytes

end TileLevel
