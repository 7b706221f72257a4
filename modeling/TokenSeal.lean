import TokenSeal.Base64Url.Padded
import TokenSeal.Key.Keying
import TokenSeal.Key.Parts
import TokenSeal.Main
import TokenSeal.Proofs.Base64Url.BitStream
import TokenSeal.Proofs.Base64Url.Padding
import TokenSeal.Proofs.Command.ExitStatus
import TokenSeal.Proofs.EnvFile.Quoting
import TokenSeal.Proofs.Key.Construction
import TokenSeal.Proofs.Key.EquivalentSecrets
import TokenSeal.Proofs.Key.KeyedState
import TokenSeal.Proofs.Key.Precedence
import TokenSeal.Proofs.Log.Lines
import TokenSeal.Proofs.Session.Constructions
import TokenSeal.Proofs.Session.Events
import TokenSeal.Proofs.Session.Lifecycle
import TokenSeal.Proofs.Session.Secrecy
import TokenSeal.Proofs.Settings.CacheHistory
import TokenSeal.Proofs.Settings.QuotedSecret
import TokenSeal.Proofs.Settings.Resolution
import TokenSeal.Proofs.SigningInput.Splits
import TokenSeal.Proofs.Verifier.Plugins
import TokenSeal.Settings.Cache
import TokenSeal.Text.Utf8.RoundTrip
