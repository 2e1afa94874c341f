import CommandAudit.Catalogue

/-!
# The bundled catalogue

Reserved words of the shell, the POSIX and GNU utilities, and what two platforms add to them.
-/

namespace CommandAudit.Catalogue

/-- Selected reserved words, a few environment names and the usual here-document marker. -/
def reservedNames : List String :=
  ["for", "in", "do", "done", "if", "then", "elif", "else", "fi", "while", "until", "continue",
   "break", "let", "case", "shift", "esac", "select", "declare", "unset", "eval", "function",
   "time", "trap", "return", "exit", "EOF", "HOME", "INT", "TZ"]

/-- The utilities of the POSIX standard. -/
def posixNames : List String :=
  ["admin", "alias", "ar", "asa", "at", "awk", "basename", "batch", "bc", "bg", "c99", "cal",
   "cat", "cd", "cflow", "chgrp", "chmod", "chown", "cksum", "cmp", "comm", "command", "compress",
   "cp", "crontab", "csplit", "ctags", "cut", "cxref", "date", "dd", "delta", "df", "diff",
   "dirname", "du", "echo", "ed", "env", "ex", "expand", "expr", "false", "fc", "fg", "file",
   "find", "fold", "fort77", "fuser", "gencat", "get", "getconf", "getopts", "grep", "hash",
   "head", "iconv", "id", "ipcrm", "ipcs", "jobs", "join", "kill", "lex", "link", "ln", "locale",
   "localedef", "logger", "logname", "lp", "ls", "m4", "mailx", "make", "man", "mesg", "mkdir",
   "mkfifo", "more", "mv", "newgrp", "nice", "nl", "nm", "nohup", "od", "paste", "patch",
   "pathchk", "pax", "pr", "printf", "prs", "ps", "pwd", "qalter", "qdel", "qhold", "qmove",
   "qmsg", "qrerun", "qrls", "qselect", "qsig", "qstat", "qsub", "read", "renice", "rm", "rmdel",
   "rmdir", "sact", "sccs", "sed", "sh", "sleep", "sort", "split", "strings", "strip", "stty",
   "tabs", "tail", "talk", "tee", "test", "time", "touch", "tput", "tr", "true", "tsort", "tty",
   "type", "ulimit", "umask", "unalias", "uname", "uncompress", "unexpand", "unget", "uniq",
   "unlink", "uucp", "uudecode", "uuencode", "uustat", "uux", "val", "vi", "wait", "wc", "what",
   "who", "write", "xargs", "yacc", "zcat"]

/-- Utilities of the GNU system. -/
def gnuNames : List String :=
  ["find", "xargs", "grep", "egrep", "bash", "gzip", "sed", "tar"]

/-- What macOS adds. -/
def macosNames : List String :=
  ["clear", "codesign", "col", "curl", "diskutil", "exec", "expect", "fmt", "hdiutil", "less",
   "md5", "mktemp", "mount", "newfs_hfs", "open", "opendiff", "osascript", "perl", "seq", "shopt",
   "sqlite3", "stat", "sudo", "which", "xcodebuild", "xsltproc", "zip"]

/-- What Linux adds. -/
def linuxNames : List String :=
  ["base64", "clear", "col", "column", "curl", "exec", "expect", "flock", "fmt", "free", "getent",
   "hostname", "install", "ip", "journalctl", "ldd", "less", "lsblk", "lsof", "md5sum", "mktemp",
   "mount", "nproc", "perl", "readlink", "realpath", "seq", "setsid", "sha1sum", "sha256sum",
   "shopt", "sqlite3", "stat", "sudo", "systemctl", "tac", "timeout", "umount", "unzip", "uptime",
   "useradd", "wget", "which", "xxd", "zip"]

/-- The catalogue that is consulted unless another one is named. -/
def bundled : Catalogue where
  stages := [
    { name := some "reserved", label := "Bash reserved words", names := reservedNames.map .string },
    { name := some "posix", label := "POSIX commands", names := posixNames.map .string },
    { name := some "gnu", label := "GNU standard commands", names := gnuNames.map .string }]
  platforms := [
    ("macos", { label := "macOS extended commands", names := macosNames.map .string }),
    ("linux", { label := "Linux extended commands", names := linuxNames.map .string })]

end CommandAudit.Catalogue
