import GridServe.Startup.Files
import GridServe.Pem.Reader
import GridServe.Key.Rsa
import GridServe.Key.Ec
import GridServe.Key.Ed25519

/-!
The certificate and key files of HTTPS. A path that is `~` alone names the current home, one
that starts with `~/` is taken inside it, and one that starts with `~` and a user name (up to
the next `/`) is taken inside that user's home. The files hold PEM sections; the first section
of the key file that is kept must be a private key (RSA, PKCS #8 or EC) that a signer accepts.

Whether a private key can sign: the key bytes must hold an RSA, ECDSA (P-256 or P-384) or
Ed25519 key that passes that kind's checks, whichever label its PEM section had.
-/

namespace GridServe

namespace SigningKey

def accepts (bytes : List UInt8) : Bool :=
  RsaKey.accepts bytes || EcKey.accepts bytes || Ed25519.accepts bytes

end SigningKey

namespace Tls

def accountHomes : List (String × String) :=
  [("root", "/root"), ("daemon", "/usr/sbin"), ("bin", "/bin"), ("sys", "/dev"), ("sync", "/bin"),
    ("games", "/usr/games"), ("man", "/var/cache/man"), ("lp", "/var/spool/lpd"),
    ("mail", "/var/mail"), ("news", "/var/spool/news"), ("uucp", "/var/spool/uucp"),
    ("proxy", "/bin"), ("www-data", "/var/www"), ("backup", "/var/backups"),
    ("list", "/var/list"), ("irc", "/run/ircd"),
    ("_apt", "/nonexistent"), ("nobody", "/nonexistent")]

/-- Append a relative path to a directory; an absolute one replaces it, and an empty one
leaves a trailing `/`. -/
def join (dir rest : String) : String :=
  if rest.startsWith "/" then rest
  else if dir.endsWith "/" then dir ++ rest
  else dir ++ "/" ++ rest

def dropHomePrefixes : Nat → List Char → List Char
  | fuel + 1, '~' :: '/' :: rest => dropHomePrefixes fuel rest
  | _, cs => cs

def expandHome (home : String) (path : String) : Except String String :=
  match path.toList with
  | ['~'] => .ok home
  | '~' :: '/' :: rest =>
    .ok (join home (String.ofList (dropHomePrefixes rest.length ('~' :: '/' :: rest))))
  | '~' :: rest =>
    let user := String.ofList (rest.takeWhile (· != '/'))
    let tail := String.ofList ((rest.dropWhile (· != '/')).drop 1)
    match accountHomes.lookup user with
    | some dir => .ok (join dir tail)
    | none => .error user
  | _ => .ok path

/-- Check a certificate and key pair of texts, as the server loads them: the certificate text
must read as PEM throughout, the first section kept from the key text must be a private key,
and a signer must accept that key. What follows the key in its text is not read. -/
def checkPair (cert key : String) : Except String Unit :=
  match Pem.items cert with
  | .error e => .error e
  | .ok _ =>
    match Pem.firstItem key with
    | .error e => .error e
    | .ok (some k) =>
      if !k.isKey then .error "private key format not supported"
      else if SigningKey.accepts k.der then .ok ()
      else .error "unexpected error: invalid private key"
    | .ok none => .error "private key format not supported"

end Tls

end GridServe
