namespace WireSchema

/-!
Faults of the file system.

An operation on files is refused for one of a few reasons.
-/

/-- Why an operation on a file is refused. -/
inductive FileFault where
  /-- Nothing has the path. -/
  | notFound
  /-- The path is that of a directory. -/
  | isDirectory
  /-- A part of the path is that of a file. -/
  | notDirectory
  /-- A directory is to be made where a file is. -/
  | exists
  /-- The path names a directory by its place, so that nothing can be put there. -/
  | busy
  /-- A name or the whole path is longer than the file system admits. -/
  | tooLong
  /-- A name holds the character that ends a path, so that it is that of no file. -/
  | noPath
  /-- What has the path is no program. -/
  | notAdmitted
deriving DecidableEq, Repr

end WireSchema
