import KindTable.Disk.Fault

namespace KindTable

class FileAccess (m : Type → Type) where
  fileSize : String → m (Except DiskFault Nat)
  readText : String → m (Except DiskFault String)
  makeDirectories : String → m (Except DiskFault Unit)
  writeText : (path text : String) → m (Except DiskFault Unit)

export FileAccess (fileSize readText makeDirectories writeText)

def joinPath (directory name : String) : String :=
  if directory.isEmpty || directory.toList.getLast? == some '/' then directory ++ name
  else directory ++ "/" ++ name

end KindTable
