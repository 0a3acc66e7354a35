import ScriptSearch.Host.FileTree

/-! What is installed on every host: directories, devices and programs. -/

namespace ScriptSearch.Host.Installation

/-- The names of the system's programs besides the shells. -/
def programs : List String :=
  ["[", "addpart", "apt", "apt-cache", "apt-cdrom", "apt-config", "apt-get", "apt-key", "apt-mark",
    "arch", "awk", "b2sum", "base32", "base64", "basename", "basenc", "bashbug", "captoinfo",
    "cat", "chage", "chattr", "chcon", "chfn", "chgrp", "chmod", "choom", "chown", "chrt", "chsh",
    "cksum", "clear", "clear_console", "cmp", "comm", "cp", "csplit", "cut", "date", "dd",
    "deb-systemd-helper", "deb-systemd-invoke", "debconf", "debconf-apt-progress",
    "debconf-communicate", "debconf-copydb", "debconf-escape", "debconf-set-selections",
    "debconf-show", "delpart", "df", "diff", "diff3", "dir", "dircolors", "dirname", "dmesg",
    "dnsdomainname", "domainname", "dpkg", "dpkg-deb", "dpkg-divert", "dpkg-maintscript-helper",
    "dpkg-query", "dpkg-realpath", "dpkg-split", "dpkg-statoverride", "dpkg-trigger", "du", "echo",
    "egrep", "env", "expand", "expiry", "expr", "factor", "faillog", "fallocate", "false", "fgrep",
    "find", "findmnt", "flock", "fmt", "fold", "getconf", "getent", "getopt", "gpasswd", "gpgv",
    "grep", "groups", "gunzip", "gzexe", "gzip", "hardlink", "head", "hostid", "hostname", "i386",
    "iconv", "id", "infocmp", "infotocap", "install", "ionice", "ipcmk", "ipcrm", "ipcs",
    "ischroot", "join", "last", "lastb", "lastlog", "ldd", "link", "linux32", "linux64", "ln",
    "locale", "localedef", "logger", "login", "logname", "ls", "lsattr", "lsblk", "lscpu", "lsipc",
    "lslocks", "lslogins", "lsmem", "lsns", "mawk", "mcookie", "md5sum", "md5sum.textutils",
    "mesg", "mkdir", "mkfifo", "mknod", "mktemp", "more", "mount", "mountpoint", "mv", "namei",
    "nawk", "newgrp", "nice", "nisdomainname", "nl", "nohup", "nproc", "nsenter", "numfmt", "od",
    "pager", "partx", "passwd", "paste", "pathchk", "perl", "pinky", "pldd", "pr", "printenv",
    "printf", "prlimit", "ptx", "pwd", "readlink", "realpath", "rename.ul", "renice", "reset",
    "resizepart", "rev", "rgrep", "rm", "rmdir", "run-parts", "runcon", "savelog", "script",
    "scriptlive", "scriptreplay", "sdiff", "sed", "seq", "setarch", "setpriv", "setsid", "setterm",
    "sg", "sha1sum", "sha224sum", "sha256sum", "sha384sum", "sha512sum", "shred", "shuf", "sleep",
    "sort", "split", "stat", "stdbuf", "stty", "su", "sum", "sync", "tabs", "tac", "tail", "tar",
    "taskset", "tee", "tempfile", "test", "tic", "timeout", "toe", "touch", "tput", "tr", "true",
    "truncate", "tset", "tsort", "tty", "tzselect", "umount", "uname", "uncompress", "unexpand",
    "uniq", "unlink", "unshare", "update-alternatives", "users", "utmpdump", "vdir", "wall", "wc",
    "wdctl", "whereis", "which", "which.debianutils", "who", "whoami", "x86_64", "xargs", "yes",
    "ypdomainname", "zcat", "zcmp", "zdiff", "zdump", "zegrep", "zfgrep", "zforce", "zgrep",
    "zless", "zmore", "znew"]

/-- Directories, but for those to work in. -/
def directories : List Location :=
  [["boot"], ["dev"], ["dev", "mqueue"], ["dev", "pts"], ["dev", "shm"], ["etc"],
    ["etc", "alternatives"], ["etc", "apt"], ["etc", "default"], ["etc", "dpkg"], ["etc", "skel"],
    ["home"], ["media"], ["mnt"], ["opt"], ["proc"], ["proc", "1"], ["proc", "self"],
    ["proc", "self", "fd"], ["proc", "self", "fdinfo"], ["proc", "self", "net"],
    ["proc", "self", "ns"], ["proc", "self", "task"], ["proc", "sys"], ["proc", "sys", "fs"],
    ["proc", "sys", "kernel"], ["proc", "sys", "net"], ["proc", "sys", "vm"], ["root"], ["run"],
    ["run", "lock"], ["srv"], ["sys"], ["sys", "block"], ["sys", "bus"], ["sys", "class"],
    ["sys", "dev"], ["sys", "devices"], ["sys", "firmware"], ["sys", "fs"], ["sys", "kernel"],
    ["sys", "module"], ["sys", "power"], ["tmp"], ["usr"], ["usr", "bin"], ["usr", "games"],
    ["usr", "include"], ["usr", "lib"], ["usr", "lib64"], ["usr", "lib", "x86_64-linux-gnu"],
    ["usr", "libexec"], ["usr", "local"], ["usr", "local", "bin"], ["usr", "local", "etc"],
    ["usr", "local", "games"], ["usr", "local", "include"], ["usr", "local", "lib"],
    ["usr", "local", "sbin"], ["usr", "local", "share"], ["usr", "local", "src"], ["usr", "sbin"],
    ["usr", "share"], ["usr", "share", "doc"], ["usr", "share", "man"], ["usr", "src"], ["var"],
    ["var", "backups"], ["var", "cache"], ["var", "lib"], ["var", "lib", "dpkg"], ["var", "local"],
    ["var", "log"], ["var", "mail"], ["var", "opt"], ["var", "spool"], ["var", "tmp"]]

/-- Links. -/
def links : List (Location × String) :=
  [(["bin"], "usr/bin"), (["sbin"], "usr/sbin"), (["lib"], "usr/lib"), (["lib64"], "usr/lib64"),
    (["dev", "fd"], "/proc/self/fd"), (["dev", "core"], "/proc/kcore"),
    (["dev", "ptmx"], "pts/ptmx"), (["proc", "mounts"], "self/mounts"),
    (["proc", "net"], "self/net"), (["proc", "thread-self"], "self"), (["proc", "self", "root"], "/"),
    (["proc", "self", "exe"], "/usr/bin/dash"), (["var", "run"], "/run"),
    (["var", "lock"], "/run/lock"), (["usr", "bin", "sh"], "dash"), (["usr", "bin", "rbash"], "bash"),
    (["etc", "mtab"], "/proc/mounts"), (["etc", "os-release"], "../usr/lib/os-release")]

/-- Files whose texts do not matter. -/
def records : List Location :=
  (["adduser.conf", "bash.bashrc", "debconf.conf", "debian_version", "deluser.conf", "environment",
    "fstab", "gai.conf", "group", "group-", "gshadow", "host.conf", "hostname", "hosts", "issue",
    "issue.net", "ld.so.cache", "ld.so.conf", "libaudit.conf", "login.defs", "machine-id", "motd",
    "nsswitch.conf", "pam.conf", "passwd", "passwd-", "profile", "resolv.conf", "services",
    "shadow", "shells", "subgid", "subuid", "xattr.conf"].map fun name => ["etc", name]) ++
  (["cgroups", "cmdline", "consoles", "cpuinfo", "crypto", "devices", "diskstats", "dma",
    "filesystems", "interrupts", "iomem", "ioports", "kallsyms", "loadavg", "locks", "meminfo",
    "misc", "modules", "partitions", "slabinfo", "softirqs", "stat", "swaps", "uptime", "version",
    "vmstat", "zoneinfo"].map fun name => ["proc", name]) ++
  (["attr", "auxv", "cgroup", "clear_refs", "cmdline", "comm", "coredump_filter", "cpuset",
    "environ", "gid_map", "io", "limits", "loginuid", "maps", "mem", "mountinfo", "mounts",
    "mountstats", "numa_maps", "oom_adj", "oom_score", "oom_score_adj", "pagemap", "personality",
    "projid_map", "sched", "schedstat", "sessionid", "setgroups", "smaps", "smaps_rollup", "stack",
    "stat", "statm", "status", "syscall", "timers", "timerslack_ns", "uid_map", "wchan"].map
    fun name => ["proc", "self", name]) ++
  [["usr", "lib", "os-release"]]

/-- Everything that is installed, with a directory to work in. -/
def entries (here : Location) : List (Location × Entry) :=
  directories.map (·, .directory 0o755) ++
  links.map (fun l => (l.1, .link l.2)) ++
  [(["proc", "self", "cwd"], .link ("/" ++ String.intercalate "/" here)),
    (["dev", "null"], .null), (["dev", "zero"], .zeros), (["dev", "full"], .full),
    (["dev", "random"], .zeros), (["dev", "urandom"], .zeros), (["dev", "tty"], .sealed),
    (["dev", "console"], .sealed), (["dev", "pts", "ptmx"], .sealed),
    (["dev", "stdin"], .descriptor 0), (["dev", "stdout"], .descriptor 1),
    (["dev", "stderr"], .descriptor 2), (["proc", "self", "fd", "0"], .descriptor 0),
    (["proc", "self", "fd", "1"], .descriptor 1), (["proc", "self", "fd", "2"], .descriptor 2),
    (["usr", "bin", "bash"], .tool .bash), (["usr", "bin", "dash"], .tool .dash)] ++
  records.map (·, .record "") ++
  programs.map fun name => (["usr", "bin", name], .tool (.utility name))

end ScriptSearch.Host.Installation
