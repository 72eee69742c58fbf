/-!
# Addresses of the database and the cache

The addresses are put together from their parts as they stand: nothing in a part is escaped.
-/

set_option autoImplicit false

namespace Phrasebook.Settings

/-- The address of the database. -/
def databaseUrl (user password host : String) (portNumber : Nat) (database : String) : String :=
  "postgres://" ++ user ++ ":" ++ password ++ "@" ++ host ++ ":" ++ toString portNumber ++ "/" ++ database

/-- The address of the cache. -/
def cacheUrl (host : String) (password : Option String) (db : Nat) : String :=
  "redis://" ++ ((password.map fun p => ":" ++ p ++ "@").getD "") ++ host ++ "/" ++ toString db

end Phrasebook.Settings
