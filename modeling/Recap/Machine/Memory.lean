import Recap.Machine.Memory.Basic
import Recap.Programs.Shell.Run

/-!
# A machine with files and programs

A machine in memory as one finds it: with the directories and files that programs expect to be there, and
with the programs of `Recap.Shell`. Nothing else depends on what is on it.

## Contents
- `usualDirectories`, `usualDevices`, `usualFiles` — what programs expect to be there.
- `firstTree` — the tree of files of a machine on which nothing has happened yet.
- `usualPrograms` — the programs that there are.
- `Memory.fresh` — the machine.
-/

namespace Recap.Machine

/-- Directories that are there from the beginning. -/
def usualDirectories : List Path :=
  ["/bin", "/boot", "/dev", "/dev/fd", "/dev/mqueue", "/dev/pts", "/dev/shm", "/etc", "/etc/alternatives", "/etc/apt",
    "/etc/cron.d", "/etc/cron.daily", "/etc/default", "/etc/dpkg", "/etc/init.d", "/etc/ld.so.conf.d",
    "/etc/logrotate.d", "/etc/opt", "/etc/pam.d", "/etc/profile.d", "/etc/rc0.d", "/etc/security", "/etc/skel",
    "/etc/systemd", "/etc/terminfo", "/home", "/lib", "/lib64", "/media", "/mnt", "/opt", "/proc", "/proc/self",
    "/proc/self/fd", "/root", "/run", "/run/lock", "/sbin", "/srv", "/sys", "/tmp", "/usr", "/usr/bin", "/usr/games",
    "/usr/include", "/usr/lib", "/usr/lib64", "/usr/libexec", "/usr/local", "/usr/local/bin", "/usr/local/etc",
    "/usr/local/games", "/usr/local/include", "/usr/local/lib", "/usr/local/sbin", "/usr/local/share",
    "/usr/local/src", "/usr/sbin", "/usr/share", "/usr/share/doc", "/usr/share/man", "/usr/src", "/var",
    "/var/backups", "/var/cache", "/var/lib", "/var/local", "/var/log", "/var/mail", "/var/opt", "/var/run",
    "/var/spool", "/var/tmp"].map Path.ofText

/-- Devices that are there from the beginning. -/
def usualDevices : List (Path × Device) :=
  [("/dev/null", .null), ("/dev/full", .full), ("/dev/zero", .zero), ("/dev/random", .zero),
    ("/dev/urandom", .zero), ("/dev/tty", .terminal), ("/dev/stdin", .input), ("/dev/stdout", .output),
    ("/dev/stderr", .errors), ("/dev/fd/0", .input), ("/dev/fd/1", .output), ("/dev/fd/2", .errors),
    ("/proc/self/fd/0", .input), ("/proc/self/fd/1", .output), ("/proc/self/fd/2", .errors)].map
      fun (text, d) => (.ofText text, d)

/-- Who can use the machine: names, numbers, homes, and the programs that they begin with. -/
def users : String :=
  let nobody := ":/usr/sbin/nologin\n"
  "root:x:0:0:root:/root:/bin/bash\n" ++
    "daemon:x:1:1:daemon:/usr/sbin" ++ nobody ++ "bin:x:2:2:bin:/bin" ++ nobody ++ "sys:x:3:3:sys:/dev" ++ nobody ++
    "sync:x:4:65534:sync:/bin:/bin/sync\n" ++ "games:x:5:60:games:/usr/games" ++ nobody ++
    "man:x:6:12:man:/var/cache/man" ++ nobody ++ "lp:x:7:7:lp:/var/spool/lpd" ++ nobody ++
    "mail:x:8:8:mail:/var/mail" ++ nobody ++ "news:x:9:9:news:/var/spool/news" ++ nobody ++
    "uucp:x:10:10:uucp:/var/spool/uucp" ++ nobody ++ "proxy:x:13:13:proxy:/bin" ++ nobody ++
    "www-data:x:33:33:www-data:/var/www" ++ nobody ++ "backup:x:34:34:backup:/var/backups" ++ nobody ++
    "list:x:38:38:Mailing List Manager:/var/list" ++ nobody ++ "irc:x:39:39:ircd:/run/ircd" ++ nobody ++
    "_apt:x:42:65534::/nonexistent" ++ nobody ++ "nobody:x:65534:65534:nobody:/nonexistent" ++ nobody

/-- The groups of those who can use the machine, with their numbers. -/
def groups : String :=
  let names : List (String × Nat) :=
    [("root", 0), ("daemon", 1), ("bin", 2), ("sys", 3), ("adm", 4), ("tty", 5), ("disk", 6), ("lp", 7), ("mail", 8),
      ("news", 9), ("uucp", 10), ("man", 12), ("proxy", 13), ("kmem", 15), ("dialout", 20), ("fax", 21),
      ("voice", 22), ("cdrom", 24), ("floppy", 25), ("tape", 26), ("sudo", 27), ("audio", 29), ("dip", 30),
      ("www-data", 33), ("backup", 34), ("operator", 37), ("list", 38), ("irc", 39), ("src", 40), ("shadow", 42),
      ("utmp", 43), ("video", 44), ("sasl", 45), ("plugdev", 46), ("staff", 50), ("games", 60), ("users", 100),
      ("nogroup", 65534)]
  String.join (names.map fun (name, n) => name ++ ":x:" ++ Nat.repr n ++ ":\n")

/-- The programs that one can begin with. -/
def firstPrograms : String :=
  "# /etc/shells: valid login shells\n" ++ String.join
    (["/bin/sh", "/usr/bin/sh", "/bin/bash", "/usr/bin/bash", "/bin/rbash", "/usr/bin/rbash", "/bin/dash",
      "/usr/bin/dash"].map (· ++ "\n"))

/-- Files that are there from the beginning, and who may do what with them. -/
def usualFiles : List (Path × String × Nat) :=
  [("/etc/passwd", users, usualMode), ("/etc/group", groups, usualMode), ("/etc/shells", firstPrograms, usualMode),
    ("/etc/hosts", "127.0.0.1\tlocalhost\n", usualMode), ("/etc/hostname", "localhost\n", usualMode),
    ("/etc/resolv.conf", "", usualMode), ("/etc/profile", "", usualMode), ("/etc/fstab", "", usualMode),
    ("/etc/bash.bashrc", "", usualMode), ("/etc/issue", "", usualMode), ("/etc/os-release", "", usualMode),
    ("/etc/environment", "", usualMode), ("/etc/shadow", "", 0o640), ("/root/.bashrc", "", usualMode),
    ("/root/.profile", "", usualMode)].map fun (text, content, mode) => (.ofText text, content, mode)

/-- The tree of files at the beginning: nothing is in the directory that programs run in. -/
def firstTree (home : Path) : FileTree :=
  let above := (List.range home.place.length).map fun n => home.place.take (n + 1)
  let places := usualDirectories.map Path.place ++ above
  let directories := places.foldl (fun t place => t.put place .directory) FileTree.empty
  let devices := usualDevices.foldl (fun t (p, d) => t.put p.place (.device d)) directories
  usualFiles.foldl (fun t (p, content, mode) => t.put p.place (.file (.text content) mode)) devices

/-- The programs of `Recap.Shell`. -/
def usualPrograms : Installed := fun i home clock tree =>
  let (ended, site) := (Shell.carryOut i).run Shell.Site.answer { home, clock, tree }
  (ended, site.tree)

/-- A machine as it is at the beginning. -/
def Memory.fresh (home : Path) : Memory :=
  { home, tree := firstTree home, clock := 0, ids := .none, printed := "", complaints := ""
    programs := usualPrograms }

end Recap.Machine
