import FederationTrust.Main
import FederationTrust.Proofs.EntriesApart
import FederationTrust.Proofs.EnvironmentOptions
import FederationTrust.Proofs.FailedRuns
import FederationTrust.Proofs.FetchedFiles
import FederationTrust.Proofs.KeyFamilies
import FederationTrust.Proofs.ListedServers
import FederationTrust.Proofs.MalformedEntries
import FederationTrust.Proofs.Refusals
import FederationTrust.Proofs.SchemelessAddresses
import FederationTrust.Proofs.UntornWrites
import FederationTrust.Proofs.StatedLifetimes
import FederationTrust.Proofs.CacheValidity
import FederationTrust.Proofs.KeyFiles
import FederationTrust.Proofs.KeySets
import FederationTrust.Proofs.CanonicalBase64
import FederationTrust.Proofs.PolicyTexts
import FederationTrust.Proofs.IgnoredVariables
import FederationTrust.Proofs.WrittenExpiries
import FederationTrust.Proofs.EqualSpellings
import FederationTrust.Proofs.ListingParts
import FederationTrust.Proofs.WholeReplacements
import FederationTrust.Proofs.OctetOrder
import FederationTrust.Proofs.PinTexts
import FederationTrust.Proofs.ResolveRuns
