import ConsoleRelay.OsError
import ConsoleRelay.Path

/-! Files as configuration and program lookup see them. -/
namespace ConsoleRelay

structure FileSystem where
  isFile : Path → Bool
  read : Path → Except OsError Bytes

end ConsoleRelay
