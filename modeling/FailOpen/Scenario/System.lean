import FailOpen.Scenario.SystemLibraries

/-!
# The system around a scenario

Directories, links and files that exist before a scenario adds its own.  The devices yield no bytes
at all, or as many as are wanted, and none of them is a library.  The process of a scenario is the
first one of its system.
-/

namespace FailOpen
namespace Scenario

open Loader (Contents Disk Location)

/-- The directory in which a process begins. -/
def workingDirectory : Location := ["usr", "src"]

/-- The directory of the system's libraries. -/
def systemLibraryDirectory : Location := ["usr", "lib", "x86_64-linux-gnu"]

/-- Directories of the system, among them the one that the engine library is installed in. -/
def systemDirectories : List Location :=
  [["opt"], ["opt", "metlo"], ["tmp"], ["boot"], ["dev"], ["dev", "mqueue"], ["dev", "pts"],
    ["dev", "shm"], ["etc"], ["etc", "alternatives"], ["etc", "apt"], ["etc", "default"],
    ["etc", "dpkg"], ["etc", "init.d"], ["etc", "ld.so.conf.d"], ["etc", "opt"], ["etc", "pam.d"],
    ["etc", "profile.d"], ["etc", "security"], ["etc", "skel"], ["home"], ["media"], ["mnt"],
    ["proc"], ["proc", "1"], ["proc", "1", "fd"], ["proc", "1", "fdinfo"], ["proc", "1", "net"],
    ["proc", "1", "ns"], ["proc", "1", "task"], ["proc", "1", "task", "1"],
    ["proc", "1", "task", "1", "fd"], ["proc", "bus"], ["proc", "fs"], ["proc", "irq"],
    ["proc", "sys"], ["proc", "sys", "fs"], ["proc", "sys", "kernel"], ["proc", "sys", "net"],
    ["proc", "sys", "vm"], ["root"], ["run"], ["run", "lock"], ["srv"], ["sys"], ["sys", "block"],
    ["sys", "bus"], ["sys", "class"], ["sys", "dev"], ["sys", "devices"], ["sys", "firmware"],
    ["sys", "fs"], ["sys", "kernel"], ["sys", "module"], ["usr"], ["usr", "bin"], ["usr", "games"],
    ["usr", "include"], ["usr", "lib"], systemLibraryDirectory,
    systemLibraryDirectory ++ ["gconv"], ["usr", "lib", "apt"], ["usr", "lib", "dpkg"],
    ["usr", "lib64"], ["usr", "libexec"], ["usr", "local"], ["usr", "local", "bin"],
    ["usr", "local", "etc"], ["usr", "local", "games"], ["usr", "local", "include"],
    ["usr", "local", "lib"], ["usr", "local", "sbin"], ["usr", "local", "share"],
    ["usr", "local", "src"], ["usr", "sbin"], ["usr", "share"], ["usr", "share", "doc"],
    ["usr", "share", "man"], ["usr", "share", "zoneinfo"], ["usr", "share", "zoneinfo", "Etc"],
    ["usr", "src"], ["var"], ["var", "backups"], ["var", "cache"], ["var", "lib"],
    ["var", "lib", "apt"], ["var", "lib", "dpkg"], ["var", "local"], ["var", "log"],
    ["var", "mail"], ["var", "opt"], ["var", "spool"], ["var", "tmp"]]

/-- Links of the system, and where they lead. -/
def systemLinks : List (Location × Location) :=
  [(["bin"], ["usr", "bin"]), (["lib"], ["usr", "lib"]), (["lib64"], ["usr", "lib64"]),
    (["sbin"], ["usr", "sbin"]),
    (["dev", "fd"], ["proc", "self", "fd"]),
    (["etc", "localtime"], ["usr", "share", "zoneinfo", "Etc", "UTC"]),
    (["etc", "mtab"], ["proc", "mounts"]),
    (["etc", "os-release"], ["usr", "lib", "os-release"]),
    (["etc", "alternatives", "awk"], ["usr", "bin", "mawk"]),
    (["proc", "self"], ["proc", "1"]),
    (["proc", "thread-self"], ["proc", "1", "task", "1"]),
    (["proc", "mounts"], ["proc", "self", "mounts"]),
    (["proc", "net"], ["proc", "self", "net"]),
    (["proc", "1", "cwd"], workingDirectory),
    (["proc", "1", "root"], []),
    (["proc", "1", "task", "1", "cwd"], workingDirectory),
    (["proc", "1", "task", "1", "root"], []),
    (["usr", "bin", "awk"], ["etc", "alternatives", "awk"]),
    (["usr", "bin", "sh"], ["usr", "bin", "dash"]),
    (["usr", "lib64", "ld-linux-x86-64.so.2"], systemLibraryDirectory ++ ["ld-linux-x86-64.so.2"]),
    (["var", "lock"], ["run", "lock"]), (["var", "run"], ["run"])]

/-- The programs of the system. -/
def systemPrograms : List String :=
  ["apt", "apt-get", "arch", "base64", "basename", "bash", "cat", "chgrp", "chmod", "chown",
    "cksum", "cmp", "comm", "cp", "csplit", "cut", "dash", "date", "dd", "df", "diff", "dir",
    "dirname", "dpkg", "du", "echo", "env", "expand", "expr", "factor", "false", "find", "fold",
    "free", "grep", "groups", "gzip", "head", "hostname", "id", "install", "join", "kill", "link",
    "ln", "login", "ls", "mawk", "md5sum", "mkdir", "mkfifo", "mknod", "mktemp", "more", "mount",
    "mv", "nice", "nl", "nohup", "nproc", "od", "passwd", "paste", "perl", "pgrep", "pinky", "ps",
    "printenv", "printf", "ptx", "pwd", "readlink", "realpath", "rm", "rmdir", "sed", "seq",
    "sha1sum", "sha256sum", "shred", "shuf", "sleep", "sort", "split", "stat", "stty", "su", "sum",
    "sync", "tac", "tail", "tar", "tee", "test", "timeout", "top", "touch", "tr", "true",
    "truncate", "tsort", "tty", "umount", "uname", "unexpand", "uniq", "unlink", "vdir", "watch",
    "wc", "who", "whoami", "xargs", "yes"]

/-- Files of the system that hold fewer bytes than a library header. -/
def shortFiles : List Location :=
  [["dev", "null"], ["etc", "debian_version"], ["etc", "environment"], ["etc", "fstab"],
    ["etc", "host.conf"], ["etc", "hostname"], ["etc", "issue"], ["etc", "issue.net"],
    ["etc", "ld.so.conf"], ["etc", "timezone"], ["proc", "1", "comm"], ["proc", "1", "statm"],
    ["proc", "loadavg"], ["proc", "uptime"], ["proc", "sys", "kernel", "hostname"],
    ["proc", "sys", "kernel", "osrelease"], ["proc", "sys", "kernel", "ostype"]]
  ++ ["libanl.a", "libdl.a", "libpthread.a", "librt.a", "libutil.a"].map fun file =>
    systemLibraryDirectory ++ [file]

/-- Files of the system that hold more bytes, but no library header. -/
def foreignFiles : List Location :=
  [["dev", "full"], ["dev", "random"], ["dev", "urandom"], ["dev", "zero"],
    ["etc", "bash.bashrc"], ["etc", "gai.conf"], ["etc", "group"], ["etc", "gshadow"],
    ["etc", "hosts"], ["etc", "ld.so.cache"], ["etc", "login.defs"], ["etc", "motd"],
    ["etc", "nsswitch.conf"], ["etc", "pam.conf"], ["etc", "passwd"], ["etc", "profile"],
    ["etc", "resolv.conf"], ["etc", "shadow"], ["etc", "shells"],
    ["proc", "1", "limits"], ["proc", "1", "maps"], ["proc", "1", "mountinfo"],
    ["proc", "1", "mounts"], ["proc", "1", "smaps"], ["proc", "1", "stat"],
    ["proc", "1", "status"], ["proc", "cpuinfo"], ["proc", "devices"], ["proc", "filesystems"],
    ["proc", "interrupts"], ["proc", "meminfo"], ["proc", "modules"], ["proc", "partitions"],
    ["proc", "stat"], ["proc", "version"], ["proc", "vmstat"],
    ["usr", "bin", "gunzip"], ["usr", "bin", "ldd"], ["usr", "bin", "zcat"],
    ["usr", "lib", "os-release"], ["usr", "share", "zoneinfo", "Etc", "UTC"]]
  ++ ["libc.a", "libc.so", "libm.a", "libm.so"].map fun file => systemLibraryDirectory ++ [file]

/-- Files of the system that wait to be linked. -/
def unlinkedFiles : List Location :=
  ["Scrt1.o", "crt1.o", "crti.o", "crtn.o", "gcrt1.o"].map fun file =>
    systemLibraryDirectory ++ [file]

/-- What the system stores. -/
def systemEntries : List (Location × Contents) :=
  systemDirectories.map (fun location => (location, .directory))
    ++ systemLinks.map (fun (location, target) => (location, .link target))
    ++ libraryFiles.map (fun file => (systemLibraryDirectory ++ [file], .library file))
    ++ systemPrograms.map (fun program => (["usr", "bin", program], .program))
    ++ [(["proc", "1", "exe"], .program)]
    ++ shortFiles.map (fun location => (location, .short))
    ++ foreignFiles.map (fun location => (location, .foreign))
    ++ unlinkedFiles.map (fun location => (location, .unlinked))

/-- The disk of a system without scenarios. -/
def systemDisk : Disk where
  stored location := systemEntries.lookup location
  workingDirectory := workingDirectory
  libraryDirectories :=
    ["/lib/x86_64-linux-gnu/", "/usr/lib/x86_64-linux-gnu/", "/lib/", "/usr/lib/"]
  tokens := [("LIB", "lib/x86_64-linux-gnu"), ("ORIGIN", "/usr/src"), ("PLATFORM", "haswell")]

end Scenario
end FailOpen
