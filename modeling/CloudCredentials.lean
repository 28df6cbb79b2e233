import CloudCredentials.Background
import CloudCredentials.Main
import CloudCredentials.Support
import CloudCredentials.Proofs.AmbientKeys
import CloudCredentials.Proofs.BackgroundRounds
import CloudCredentials.Proofs.Closing
import CloudCredentials.Proofs.CommandEnds
import CloudCredentials.Proofs.ConfigFileName
import CloudCredentials.Proofs.DefaultProfiles
import CloudCredentials.Proofs.DescribedSecrets
import CloudCredentials.Proofs.DescriptionLines
import CloudCredentials.Proofs.ErrorContract
import CloudCredentials.Proofs.ExplicitFile
import CloudCredentials.Proofs.Fallbacks
import CloudCredentials.Proofs.FirstSuccess
import CloudCredentials.Proofs.Freshness
import CloudCredentials.Proofs.IdentifiedProviders
import CloudCredentials.Proofs.NeededCalls
import CloudCredentials.Proofs.NestedChains
import CloudCredentials.Proofs.Outages
import CloudCredentials.Proofs.ProfileRetries
import CloudCredentials.Proofs.RenewalAhead
import CloudCredentials.Proofs.Secrecy
import CloudCredentials.Proofs.SessionRecheck
import CloudCredentials.Proofs.SettingsPrecedence
import CloudCredentials.Proofs.SingleDelivery
import CloudCredentials.Proofs.UnreadLog
import CloudCredentials.Proofs.ValidationSigner
import CloudCredentials.Proofs.ValidityAnswers
import CloudCredentials.Proofs.WrappedFailures
