import AuthRealm.Main
import AuthRealm.Scenario.Run
import AuthRealm.Proofs.Credential.History
import AuthRealm.Proofs.Account.Table
import AuthRealm.Proofs.Account.Store
import AuthRealm.Proofs.Realm.Authenticate
import AuthRealm.Proofs.Realm.Authority
import AuthRealm.Proofs.Realm.Run
import AuthRealm.Proofs.Realm.Frame
import AuthRealm.Proofs.Realm.Revocation
import AuthRealm.Proofs.Realm.Cookie
import AuthRealm.Proofs.Realm.Activity
import AuthRealm.Proofs.Credential.Reading
import AuthRealm.Proofs.Realm.Answer
import AuthRealm.Proofs.Http.Cookie
import AuthRealm.Proofs.Realm.Session
import AuthRealm.Proofs.Http.Session
import AuthRealm.Proofs.Text.Utf8
import AuthRealm.Proofs.Text.Base64
import AuthRealm.Proofs.Text.Json
import AuthRealm.Proofs.Http.Authorization
import AuthRealm.Proofs.Http.LoginForm
import AuthRealm.Proofs.Http.Answer
import AuthRealm.Proofs.Http.Surfaces
import AuthRealm.Proofs.Http.Run
import AuthRealm.Proofs.Http.RateLimit
import AuthRealm.Proofs.Http.Refusal
import AuthRealm.Proofs.Http.Response
import AuthRealm.Proofs.Http.Disclosure
import AuthRealm.Proofs.Text.Lines
import AuthRealm.Proofs.Text.Decoding
import AuthRealm.Proofs.Credential.Entries
import AuthRealm.Proofs.Credential.Layout
import AuthRealm.Proofs.Credential.Grammar
import AuthRealm.Proofs.Credential.Repetition
import AuthRealm.Proofs.Text.Numeral
import AuthRealm.Proofs.Secret.Spelling
import AuthRealm.Proofs.Realm.GenuineEntry
import AuthRealm.Proofs.Account.Growth
import AuthRealm.Proofs.Storage.Walk
import AuthRealm.Proofs.Realm.Takeover
import AuthRealm.Proofs.Account.Database
import AuthRealm.Proofs.Realm.Lifetime
import AuthRealm.Proofs.Storage.Resolve
import AuthRealm.Proofs.Realm.Setup
import AuthRealm.Proofs.Account.Edit
import AuthRealm.Proofs.Realm.SideBySide
import AuthRealm.Proofs.Realm.Commutation
import AuthRealm.Proofs.Account.Erasure
import AuthRealm.Proofs.Credential.SameNames
import AuthRealm.Proofs.Realm.Secrecy
import AuthRealm.Proofs.Text.Integer
import AuthRealm.Proofs.Secret.Grammar
import AuthRealm.Account.Sheet
import AuthRealm.Proofs.Account.Sheet
import AuthRealm.Proofs.Account.Writing
import AuthRealm.Proofs.Realm.Locality
import AuthRealm.Proofs.Realm.Unwritten
import AuthRealm.Proofs.Account.Password
import AuthRealm.Proofs.Realm.LocalPassword
import AuthRealm.Proofs.Command.Check
import AuthRealm.Proofs.Settings.Assignments
import AuthRealm.Proofs.Settings.Load
import AuthRealm.Proofs.Command.Override
import AuthRealm.Proofs.Storage.Following
import AuthRealm.Proofs.Settings.ResolvedPath
import AuthRealm.Proofs.Http.RateKey
import AuthRealm.Proofs.Text.Percent
import AuthRealm.Proofs.Settings.BackingStore
import AuthRealm.Proofs.Storage.SameShape
import AuthRealm.Proofs.Command.Listing
import AuthRealm.Proofs.Account.KeyStream
import AuthRealm.Proofs.Credential.LineEnds
import AuthRealm.Proofs.Http.SharedKey
import AuthRealm.Proofs.Scenario.Keeping
import AuthRealm.Proofs.Scenario.Health
