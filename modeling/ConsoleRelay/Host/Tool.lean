import ConsoleRelay.Text.Utf8

/-! The programs that the machine has from the start. It stands in for the operating system. -/
namespace ConsoleRelay

inductive Tool where
  | shell
  | true
  | false
  | echo
  | printf
  | test
  | bracket
  | pwd
  | cat
  | tee
  | head
  | tail
  | wc
  | seq
  | sort
  | uniq
  | cut
  | tr
  | basename
  | dirname
  | ls
  | mkdir
  | rmdir
  | rm
  | touch
  | cp
  | mv
  | chmod
  | sleep
  | env
  | printenv
  deriving DecidableEq, Repr

def Tool.names : List (String × Tool) := [
  ("sh", .shell), ("dash", .shell), ("true", .true), ("false", .false), ("echo", .echo),
  ("printf", .printf), ("test", .test), ("[", .bracket),
  ("pwd", .pwd), ("cat", .cat), ("tee", .tee), ("head", .head), ("tail", .tail), ("wc", .wc),
  ("seq", .seq), ("sort", .sort), ("uniq", .uniq), ("cut", .cut), ("tr", .tr),
  ("basename", .basename), ("dirname", .dirname), ("ls", .ls), ("mkdir", .mkdir),
  ("rmdir", .rmdir), ("rm", .rm), ("touch", .touch), ("cp", .cp), ("mv", .mv), ("chmod", .chmod),
  ("sleep", .sleep), ("env", .env), ("printenv", .printenv)]

end ConsoleRelay
